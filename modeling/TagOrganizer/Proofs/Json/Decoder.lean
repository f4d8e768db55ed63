import TagOrganizer.Json.Decoder
import TagOrganizer.Proofs.Evaluation

/-!
# What decoders read from values

A decoder that succeeds on a value has read from it what stands there: a text from a text, the items
of a list from the items of an array, and each field of a record from the entry of that name, or
from the item at the place of the field if the record is given as an array.
-/

namespace TagOrganizer

namespace Json

/--
The entry of a record with a name and a position. A record is an object, or the array of its fields
in their order.
-/
def entry? (name : String) (position : Nat) : Json → Option Json
  | .object fields => fields.lookup name
  | .array items => items[position]?
  | _ => none

theorem entry?_of_get? {document content : Json} {name : String}
    (found : document.get? name = some content) (other : String) (position : Nat) :
    document.entry? other position = document.get? other := by
  cases document with
  | object fields => rfl
  | _ => cases found

/-- Whether what is found of an entry is the array of some items, or is missing, for no items. -/
def Lists {α : Type} (means : Json → α → Prop) (found : Option Json) (values : List α) : Prop :=
  (∃ items, found = some (.array items) ∧ List.Forall₂ means items values) ∨
    found = none ∧ values = []

theorem Lists.mono {α : Type} {means other : Json → α → Prop} {found : Option Json}
    {values : List α} (lists : Lists means found values)
    (weaker : ∀ item value, means item value → other item value) : Lists other found values := by
  rcases lists with ⟨items, given, agree⟩ | none
  · exact .inl ⟨items, given, agree.imp weaker⟩
  · exact .inr none

/-- What is listed is determined if each item means one thing only. -/
theorem Lists.unique {α : Type} {means : Json → α → Prop} {found : Option Json}
    {values others : List α} (single : Relator.RightUnique means)
    (lists : Lists means found values) (again : Lists means found others) : values = others := by
  rcases lists with ⟨items, given, agree⟩ | ⟨missing, rfl⟩
  · rcases again with ⟨same, givenAgain, agreeAgain⟩ | ⟨missing, -⟩
    · rw [given] at givenAgain
      cases givenAgain
      exact List.right_unique_forall₂' single agree agreeAgain
    · rw [given] at missing
      cases missing
  · rcases again with ⟨items, given, -⟩ | ⟨-, rfl⟩
    · rw [missing] at given
      cases given
    · rfl

namespace Decoder

/-- Whether a decoder reads a value from a given one, with some room for nesting. -/
def Reads {α : Type} (decoder : Decoder α) (given : Json) (value : α) : Prop :=
  ∃ room, decoder room (Draft.ofJson given) = .ok value

variable {α ρ : Type} {decoder : Decoder α} {given : Json} {room : Nat}

theorem reads_of_ofJson {value : α} (read : ofJson decoder given = .ok value) :
    decoder.Reads given value :=
  ⟨_, Except.mapError_eq_ok_iff.1 read⟩

theorem eq_text_of_reads {value : String} (reads : text.Reads given value) :
    given = .text value := by
  rcases reads with ⟨room, read⟩
  cases given with
  | text found =>
      cases read
      rfl
  | _ => cases read

theorem ofItems_eq_map (items : List Json) : Draft.ofItems items = items.map Draft.ofJson := by
  induction items with
  | nil => rfl
  | cons item items ih => rw [Draft.ofItems, List.map_cons, ih]

theorem exists_array_of_reads {values : List α} (reads : (list decoder).Reads given values) :
    ∃ items, given = .array items ∧ List.Forall₂ decoder.Reads items values := by
  rcases reads with ⟨room, read⟩
  cases given with
  | array items =>
      rw [Draft.ofJson, ofItems_eq_map] at read
      rcases Except.bind_eq_ok_iff.1 read with ⟨inner, -, read⟩
      rcases Except.bind_eq_ok_iff.1 read with ⟨found, all, read⟩
      cases read
      have all := Except.mapM_eq_ok_iff.1 all
      rw [List.forall₂_map_left_iff] at all
      exact ⟨items, rfl, all.imp fun item value read => ⟨inner, read⟩⟩
  | _ => cases read

/-! ### Records -/

/-- Whether reading a field changes no part of a record but, perhaps, others than this one. -/
def Keeps (part : ρ → α) (field : RecordField ρ) : Prop :=
  ∀ room draft change, field.read room draft = .ok change → ∀ record,
    part (change record) = part record

/--
Whether a part of a record is what a decoder reads from the field at a position, and no other field
changes it.
-/
structure Governs (fields : List (RecordField ρ)) (position : Nat) (field : RecordField ρ)
    (decoder : Decoder α) (part : ρ → α) : Prop where
  there : fields[position]? = some field
  sets : ∀ room draft change, field.read room draft = .ok change →
    ∃ value, decoder room draft = .ok value ∧ ∀ record, part (change record) = value
  keeps : ∀ other ∈ fields.eraseIdx position, other.name ≠ field.name ∧ Keeps part other

/-- Whether a value has been read from what is found of its field, or stays where nothing is. -/
def Took (decoder : Decoder α) (required : Bool) (start : α) (found : Option Json) (value : α) :
    Prop :=
  (∃ content, found = some content ∧ decoder.Reads content value) ∨
    found = none ∧ required = false ∧ value = start

theorem eq_some_of_took {start value : α} {found : Option Json}
    (took : Took decoder true start found value) :
    ∃ content, found = some content ∧ decoder.Reads content value := by
  rcases took with read | ⟨-, required, -⟩
  · exact read
  · cases required

theorem eq_text_of_took {start value : String} {found : Option Json}
    (took : Took text true start found value) : found = some (.text value) := by
  rcases eq_some_of_took took with ⟨content, rfl, read⟩
  rw [eq_text_of_reads read]

theorem lists_of_took {values : List α} {found : Option Json}
    (took : Took (list decoder) false [] found values) : Lists decoder.Reads found values := by
  rcases took with ⟨content, rfl, read⟩ | ⟨missing, -, none⟩
  · rcases exists_array_of_reads read with ⟨items, rfl, each⟩
    exact .inl ⟨items, rfl, each⟩
  · exact .inr ⟨missing, none⟩

section Field

variable {name : String} {required : Bool} {set : α → ρ → ρ} {part : ρ → α}

theorem keeps_field {β : Type} {other : ρ → β} (kept : ∀ value record,
    other (set value record) = other record) :
    Keeps other ⟨name, required, fun room draft => (decoder room draft).map set⟩ := by
  intro room draft change read record
  rcases Except.map_eq_ok_iff.1 read with ⟨value, -, rfl⟩
  exact kept value record

theorem exists_of_field (sets : ∀ value record, part (set value record) = value) :
    ∀ room draft change, (decoder room draft).map set = .ok change →
      ∃ value, decoder room draft = .ok value ∧ ∀ record, part (change record) = value := by
  intro room draft change read
  rcases Except.map_eq_ok_iff.1 read with ⟨value, found, rfl⟩
  exact ⟨value, found, sets value⟩

end Field

variable {fields : List (RecordField ρ)} {position : Nat} {field : RecordField ρ}
  {part : ρ → α} {seen : List String} {start final : ρ}

/-- A part stays as it is if every field that could be read yet leaves it alone. -/
theorem part_of_fields {entries : List (String × Json)}
    (kept : ∀ other ∈ fields, other.name ∈ seen ∨ Keeps part other)
    (read : recordFields fields room none seen start (Draft.ofFields entries) = .ok final) :
    part final = part start := by
  induction entries generalizing seen start with
  | nil =>
      rcases Except.bind_eq_ok_iff.1 read with ⟨-, -, read⟩
      split at read
      · cases read
      · cases read
        rfl
  | cons entry entries ih =>
      rcases entry with ⟨name, content⟩
      simp only [Draft.ofFields, recordFields] at read
      split at read
      · rcases Except.bind_eq_ok_iff.1 read with ⟨-, -, read⟩
        exact ih kept read
      · rename_i other found
        have isName := List.find?_some found
        split at read
        · cases read
        · rename_i unseen
          rcases Except.bind_eq_ok_iff.1 read with ⟨change, first, read⟩
          rw [ih (fun other among => (kept other among).imp_left (List.mem_cons_of_mem _)) read]
          rcases kept other (List.mem_of_find?_eq_some found) with present | keeps
          · rw [eq_of_beq isName] at present
            exact absurd (List.contains_iff_mem.2 present) unseen
          · exact keeps _ _ _ first start

theorem part_of_items {items : List Json} (keeps : ∀ other ∈ fields, Keeps part other)
    (read : recordItems room none fields start (items.map Draft.ofJson) = .ok final) :
    part final = part start := by
  induction items generalizing fields start with
  | nil =>
      cases fields with
      | nil =>
          cases read
          rfl
      | cons field fields =>
          rcases Except.bind_eq_ok_iff.1 read with ⟨-, -, read⟩
          split at read
          · cases read
          · cases read
            rfl
  | cons item items ih =>
      cases fields with
      | nil => cases read
      | cons field fields =>
          rcases Except.bind_eq_ok_iff.1 read with ⟨change, first, read⟩
          rw [ih (fun other among => keeps other (List.mem_cons_of_mem _ among)) read]
          exact keeps field List.mem_cons_self _ _ _ first start

theorem part_of_reads (reads : (record fields start).Reads given final) (part : ρ → α)
    (keeps : ∀ other ∈ fields, Keeps part other) : part final = part start := by
  rcases reads with ⟨room, read⟩
  cases given with
  | object entries =>
      rcases Except.bind_eq_ok_iff.1 read with ⟨inner, -, read⟩
      exact part_of_fields (fun other among => .inr (keeps other among)) read
  | array items =>
      rw [Draft.ofJson, ofItems_eq_map] at read
      rcases Except.bind_eq_ok_iff.1 read with ⟨inner, -, read⟩
      exact part_of_items keeps read
  | _ => cases read

namespace Governs

variable (governs : Governs fields position field decoder part)

include governs

theorem mem : field ∈ fields :=
  List.mem_of_getElem? governs.there

/-- A field of the record is the one that governs the part, or leaves it alone. -/
theorem eq_or_keeps {other : RecordField ρ} (among : other ∈ fields) :
    other = field ∨ other.name ≠ field.name ∧ Keeps part other := by
  rcases List.getElem?_of_mem among with ⟨place, found⟩
  by_cases same : place = position
  · rw [same, governs.there] at found
    exact .inl (Option.some.inj found).symm
  · exact .inr (governs.keeps other (List.mem_eraseIdx_iff_getElem?.2 ⟨place, same, found⟩))

theorem seen_or_keeps (present : field.name ∈ seen) :
    ∀ other ∈ fields, other.name ∈ seen ∨ Keeps part other := by
  intro other among
  rcases governs.eq_or_keeps among with rfl | ⟨-, keeps⟩
  · exact .inl present
  · exact .inr keeps

theorem took_of_fields {entries : List (String × Json)} (absent : field.name ∉ seen)
    (read : recordFields fields room none seen start (Draft.ofFields entries) = .ok final) :
    Took decoder field.required (part start) (entries.lookup field.name) (part final) := by
  induction entries generalizing seen start with
  | nil =>
      simp only [Draft.ofFields, recordFields, close, Except.bind_eq_ok_iff] at read
      rcases read with ⟨-, -, read⟩
      split at read
      · cases read
      · rename_i complete
        cases read
        refine .inr ⟨rfl, ?_, rfl⟩
        by_contra required
        refine complete (List.any_eq_true.2 ⟨field, governs.mem, ?_⟩)
        simpa [absent] using required
  | cons entry entries ih =>
      rcases entry with ⟨name, content⟩
      simp only [Draft.ofFields, recordFields] at read
      split at read
      · rename_i unknown
        rcases Except.bind_eq_ok_iff.1 read with ⟨-, -, read⟩
        have different : field.name ≠ name := by
          simpa using List.find?_eq_none.1 unknown field governs.mem
        rw [List.lookup_cons, beq_false_of_ne different]
        exact ih absent read
      · rename_i other found
        have isName := List.find?_some found
        have isName : other.name = name := eq_of_beq isName
        split at read
        · cases read
        · rcases Except.bind_eq_ok_iff.1 read with ⟨change, first, read⟩
          rcases governs.eq_or_keeps (List.mem_of_find?_eq_some found) with rfl | ⟨others, kept⟩
          · rcases governs.sets _ _ _ first with ⟨value, found, sets⟩
            refine .inl ⟨content, by rw [List.lookup_cons, isName, beq_self_eq_true], room, ?_⟩
            rw [part_of_fields (governs.seen_or_keeps (by simp [isName])) read, sets]
            exact found
          · have different : field.name ≠ name := fun same => others (isName.trans same.symm)
            rw [List.lookup_cons, beq_false_of_ne different, ← kept _ _ _ first start]
            exact ih (by simp [different, absent]) read

theorem took_of_items {items : List Json}
    (read : recordItems room none fields start (items.map Draft.ofJson) = .ok final) :
    Took decoder field.required (part start) items[position]? (part final) := by
  induction items generalizing fields position start with
  | nil =>
      cases fields with
      | nil => cases governs.there
      | cons other fields =>
          rcases Except.bind_eq_ok_iff.1 read with ⟨-, -, read⟩
          split at read
          · cases read
          · rename_i complete
            cases read
            refine .inr ⟨rfl, ?_, rfl⟩
            by_contra required
            exact complete (List.any_eq_true.2 ⟨field, governs.mem, by simpa using required⟩)
  | cons item items ih =>
      cases fields with
      | nil => cases governs.there
      | cons other fields =>
          rcases Except.bind_eq_ok_iff.1 read with ⟨change, first, rest⟩
          cases position with
          | zero =>
              cases governs.there
              rcases governs.sets _ _ _ first with ⟨value, found, sets⟩
              refine .inl ⟨item, rfl, room, ?_⟩
              rw [part_of_items (fun other among => (governs.keeps other among).2) rest, sets]
              exact found
          | succ position =>
              have keeps := (governs.keeps other (by simp)).2
              have later : Governs fields position field decoder part :=
                ⟨governs.there, governs.sets, fun other among =>
                  governs.keeps other (List.mem_cons_of_mem _ among)⟩
              rw [← keeps _ _ _ first start]
              exact ih later rest

/-- What is found of a field of a record has been read from its entry. -/
theorem took (reads : (record fields start).Reads given final) :
    Took decoder field.required (part start) (given.entry? field.name position) (part final) := by
  rcases reads with ⟨room, read⟩
  cases given with
  | object entries =>
      rcases Except.bind_eq_ok_iff.1 read with ⟨inner, -, read⟩
      exact governs.took_of_fields List.not_mem_nil read
  | array items =>
      rw [Draft.ofJson, ofItems_eq_map] at read
      rcases Except.bind_eq_ok_iff.1 read with ⟨inner, -, read⟩
      exact governs.took_of_items read
  | _ => cases read

end Governs

/-- A part of a record that one of its fields sets, and no other, has been read from its entry. -/
theorem took_of_reads (reads : (record fields start).Reads given final) (position : Nat)
    (part : ρ → α) {name : String} {required : Bool} {set : α → ρ → ρ}
    (there : fields[position]? =
      some ⟨name, required, fun room draft => (decoder room draft).map set⟩)
    (sets : ∀ value record, part (set value record) = value)
    (keeps : ∀ other ∈ fields.eraseIdx position, other.name ≠ name ∧ Keeps part other) :
    Took decoder required (part start) (given.entry? name position) (part final) :=
  Governs.took ⟨there, exists_of_field sets, keeps⟩ reads

end Decoder

end Json

end TagOrganizer
