import QueryBridge.Manifest.Document
import QueryBridge.Proofs.Json.Records
import QueryBridge.Proofs.Json.WrittenText

set_option autoImplicit false

namespace QueryBridge

open Json

namespace Properties

theorem insertEntry_last {name value : String} {entries : List (String × String)}
    (last : ∀ e ∈ entries, e.1 < name) : insertEntry name value entries = entries ++ [(name, value)] := by
  induction entries with
  | nil => rfl
  | cons e entries ih =>
    obtain ⟨first, rest⟩ := List.forall_mem_cons.1 last
    rw [insertEntry, if_neg (String.lt_asymm first), if_pos first, ih rest, List.cons_append]

theorem decodeEntries_eq (p : Properties) (entries : List (String × String))
    (ascending : Ascending (p.entries ++ entries)) :
    decodeEntries p (entries.map fun e => (.string e.1, .string e.2)) = .ok ⟨p.entries ++ entries, ascending⟩ := by
  induction entries generalizing p with
  | nil => simp [decodeEntries]
  | cons e entries ih =>
    have last : ∀ f ∈ p.entries, f.1 < e.1 := fun f mem =>
      (List.pairwise_append.1 ascending).2.2 f mem e List.mem_cons_self
    have next : (p.insert e.1 e.2).entries = p.entries ++ [e] := insertEntry_last last
    have whole : (p.insert e.1 e.2).entries ++ entries = p.entries ++ e :: entries := by simp [next]
    have step := ih (p.insert e.1 e.2) (whole ▸ ascending)
    simp only [whole] at step
    exact step

theorem decode_toJson (p : Properties) : decode p.toJson = .ok p := by
  have entries := decodeEntries_eq .empty p.entries p.ascending
  have members : (p.entries.map fun e => (e.1, Json.string e.2)).map (fun m => (Json.string m.1, m.2))
      = p.entries.map fun e => (.string e.1, .string e.2) := by
    rw [List.map_map]
    rfl
  rw [toJson, record, decode, members, entries]
  rfl

theorem worded_toJson (p : Properties) : Worded p.toJson :=
  .record (List.forall_mem_map.2 fun e _ => .string e.2)

end Properties

theorem worded_optionalMember {key : String} {o : Option String} : ∀ m ∈ optionalMember key o, Worded m.2 := by
  cases o with
  | none => exact nofun
  | some s => exact List.forall_mem_singleton.2 (.string s)

theorem worded_pair {a b : String × Json} (ha : Worded a.2) (hb : Worded b.2) : ∀ m ∈ [a, b], Worded m.2 :=
  List.forall_mem_cons.2 ⟨ha, List.forall_mem_singleton.2 hb⟩

theorem worded_map {α : Type} {write : α → Json} (h : ∀ a, Worded (write a)) (xs : List α) :
    Worded (list (xs.map write)) := .list (List.forall_mem_map.2 fun a _ => h a)

namespace EnumValue

theorem decode_toJson (v : EnumValue) : decode v.toJson = .ok v := by
  refine Fills.decodeRecord_eq "EnumValue" ?_ (by decide)
  exact .written rfl <| .optional (fun (v : EnumValue) o => { v with value := o }) rfl (fun _ _ => rfl) rfl <|
    .written (read_value v.properties.decode_toJson _) .done

theorem worded_toJson (v : EnumValue) : Worded v.toJson := by
  refine .record (List.forall_mem_append.2 ⟨List.forall_mem_append.2 ⟨?_, worded_optionalMember⟩, ?_⟩)
  · exact List.forall_mem_singleton.2 (.string v.name)
  · exact List.forall_mem_singleton.2 v.properties.worded_toJson

end EnumValue

namespace EnumDefinition

theorem decode_eq {j : Json} {p : Parts}
    (read : decodeRecord "RawEnumDefinition" fields ⟨"", [], .empty⟩ j = .ok p) :
    decode j = if named : p.name ≠ "" then .ok ⟨p.name, p.values, p.properties, named⟩
      else .error (.content (.rejected "Enum definition name must not be empty")) := by
  rw [decode, read]
  by_cases named : p.name ≠ ""
  · have made : make p.name p.values p.properties = .ok ⟨p.name, p.values, p.properties, named⟩ := dif_pos named
    rw [dif_pos named]
    simp only [bind, Except.bind, made]
    rfl
  · have made : make p.name p.values p.properties = .error .emptyEnumName := dif_neg named
    rw [dif_neg named]
    simp only [bind, Except.bind, made]
    rfl

theorem decode_toJson (d : EnumDefinition) : decode d.toJson = .ok d := by
  have values := decodeList_map EnumValue.decode_toJson d.values
  have parts : decodeRecord "RawEnumDefinition" fields ⟨"", [], .empty⟩ d.toJson
      = .ok ⟨d.name, d.values, d.properties⟩ := by
    refine Fills.decodeRecord_eq "RawEnumDefinition" ?_ (by decide)
    exact .written rfl <| .written (read_value values _) <| .written (read_value d.properties.decode_toJson _) .done
  rw [decode_eq parts, dif_pos d.named]

theorem worded_toJson (d : EnumDefinition) : Worded d.toJson := by
  refine .record (List.forall_mem_cons.2 ⟨.string d.name, List.forall_mem_cons.2 ⟨?_, ?_⟩⟩)
  · exact worded_map EnumValue.worded_toJson d.values
  · exact List.forall_mem_singleton.2 d.properties.worded_toJson

end EnumDefinition

namespace ModelColumn

theorem decode_toJson (c : ModelColumn) : decode c.toJson = .ok c := by
  have layout : c.toJson = record (("name", .string c.name) :: ("type", .string c.type)
      :: (optionalMember "relationship" c.relationship ++ ("isCalculated", .bool c.isCalculated)
        :: ("notNull", .bool c.notNull) :: optionalMember "expression" c.expression)) := by
    simp [toJson]
  rw [layout]
  refine Fills.decodeRecord_eq "Column" ?_ (by decide)
  exact .written rfl <| .written rfl <| .optional (fun (c : ModelColumn) o => { c with relationship := o }) rfl
    (fun _ _ => rfl) rfl <| .written rfl <| .written rfl <|
    .optional_last (fun (c : ModelColumn) o => { c with expression := o }) rfl (fun _ _ => rfl) rfl

theorem worded_toJson (c : ModelColumn) : Worded c.toJson := by
  refine .record (List.forall_mem_append.2 ⟨List.forall_mem_append.2 ⟨List.forall_mem_append.2
    ⟨?_, worded_optionalMember⟩, ?_⟩, worded_optionalMember⟩)
  · exact worded_pair (.string c.name) (.string c.type)
  · exact worded_pair (.bool c.isCalculated) (.bool c.notNull)

end ModelColumn

namespace Model

theorem decode_toJson (m : Model) : decode m.toJson = .ok m := by
  have columns := decodeList_map ModelColumn.decode_toJson m.columns
  refine Fills.decodeRecord_eq "Model" ?_ (by decide)
  exact .written rfl <| .written rfl <| .written (read_value columns _) <|
    .optional_last (fun (m : Model) o => { m with primaryKey := o }) rfl (fun _ _ => rfl) rfl

theorem worded_toJson (m : Model) : Worded m.toJson := by
  refine .record (List.forall_mem_append.2 ⟨List.forall_mem_cons.2 ⟨.string m.name,
    worded_pair (.string m.refSql) ?_⟩, worded_optionalMember⟩)
  exact worded_map ModelColumn.worded_toJson m.columns

end Model

namespace Relationship

theorem decode_wireName (c : Cardinality) : Cardinality.decode (.string c.wireName) = .ok c := by
  cases c <;> rfl

theorem decode_toJson (r : Relationship) : decode r.toJson = .ok r := by
  have models := decodeList_map (fun s => (rfl : decodeString (.string s) = .ok s)) r.models
  refine Fills.decodeRecord_eq "Relationship" ?_ (by decide)
  exact .written rfl <| .written (read_value models _) <| .written (read_value (decode_wireName r.joinType) _) <|
    .written rfl .done

theorem worded_toJson (r : Relationship) : Worded r.toJson := by
  refine .record (List.forall_mem_cons.2 ⟨.string r.name, List.forall_mem_cons.2 ⟨?_,
    worded_pair (.string r.joinType.wireName) (.string r.condition)⟩⟩)
  exact worded_map .string r.models

end Relationship

namespace Manifest

theorem decode_toJson (m : Manifest) : decode m.toJson = .ok m := by
  have models := decodeList_map Model.decode_toJson m.models
  have relationships := decodeList_map Relationship.decode_toJson m.relationships
  have enums := decodeList_map EnumDefinition.decode_toJson m.enums
  refine Fills.decodeRecord_eq "Manifest" ?_ (by decide)
  exact .written (read_value models _) <| .written (read_value relationships _) <|
    .written (read_value enums _) .done

theorem worded_toJson (m : Manifest) : Worded m.toJson := by
  refine .record (List.forall_mem_cons.2 ⟨?_, worded_pair ?_ ?_⟩)
  · exact worded_map Model.worded_toJson m.models
  · exact worded_map Relationship.worded_toJson m.relationships
  · exact worded_map EnumDefinition.worded_toJson m.enums

theorem read_render (m : Manifest) : read m.toJson.render = .ok m := by
  rw [read, decodeText_render m.worded_toJson, decode_toJson]
  rfl

/-- Every manifest is read back from its text. What is read from any text has a name for each enumeration and is
read back from its own text; the parts of an enumeration are accepted if and only if they have a name. -/
theorem written_read_back :
    (∀ m : Manifest, read m.toJson.render = .ok m) ∧
    (∀ text m, read text = .ok m → (∀ d ∈ m.enums, d.name ≠ "") ∧ read m.toJson.render = .ok m) ∧
    ∀ j p, decodeRecord "RawEnumDefinition" EnumDefinition.fields ⟨"", [], .empty⟩ j = .ok p →
      ((∃ d, EnumDefinition.decode j = .ok d) ↔ p.name ≠ "") := by
  refine ⟨read_render, fun text m _ => ⟨fun d _ => d.named, read_render m⟩, fun j p parts => ?_⟩
  rw [EnumDefinition.decode_eq parts]
  by_cases named : p.name ≠ ""
  · simp only [dif_pos named, iff_true_right named]
    exact ⟨_, rfl⟩
  · simp only [dif_neg named, iff_false_right named]
    exact fun ⟨_, refused⟩ => nomatch refused

/-- A manifest with an enumeration that has one value, and with what a document can leave out. -/
def statusText : String :=
  "\x7b\"enums\": [\x7b\"name\": \"Status\", \"values\": [\x7b\"name\": \"OPEN\"\x7d]\x7d]\x7d"

def statusManifest : Manifest := ⟨[], [], [⟨"Status", [⟨"OPEN", none, .empty⟩], .empty, by decide⟩]⟩

def unnamedEnum : Json := record [("name", .string ""), ("values", list [])]

theorem statusText_read_back : read statusText = .ok statusManifest ∧
    (∀ d ∈ statusManifest.enums, d.name ≠ "") ∧ read statusManifest.toJson.render = .ok statusManifest ∧
    ¬ ∃ d, EnumDefinition.decode unnamedEnum = .ok d := by
  have found : (read statusText).toOption = some statusManifest := by decide +kernel
  have known : read statusText = .ok statusManifest := by
    cases result : read statusText with
    | error e => simp [result, Except.toOption] at found
    | ok m => simpa [result, Except.toOption] using found
  obtain ⟨-, reread, refused⟩ := written_read_back
  obtain ⟨names, again⟩ := reread statusText statusManifest known
  exact ⟨known, names, again, fun accepted => (refused unnamedEnum ⟨"", [], .empty⟩ rfl).1 accepted rfl⟩

end Manifest

end QueryBridge
