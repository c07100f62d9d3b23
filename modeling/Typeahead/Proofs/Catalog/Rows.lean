import Typeahead.Catalog.Row
import Typeahead.Proofs.Json.Reading
import Typeahead.Proofs.Text.Trimming

/-!
# The rows of a catalog

A row is a JSON object whose last member `id`, or else whose last member `name`,
is a text.  A line is read as a row just when it is one, without the blanks around
it and without one comma at its end; and it is passed over just when nothing is
left of it, or when it begins with the brackets that close the list
(`parseRow_reads_exactly_rows`).
-/

namespace Typeahead.Catalog

open Typeahead.Json Typeahead.Text

set_option autoImplicit false

/-! ## Members -/

/-- The last member of a name holds a value. -/
def LastHolds {α : Type} (name : String) (value : α) (members : List (String × α)) : Prop :=
  ∃ front back, members = front ++ (name, value) :: back ∧ ∀ member ∈ back, member.1 ≠ name

/-- No member has the name. -/
def Lacks {α : Type} (name : String) (members : List (String × α)) : Prop :=
  ∀ member ∈ members, member.1 ≠ name

theorem lastMember?_eq_some_iff {α : Type} {name : String} {value : α}
    {members : List (String × α)} :
    lastMember? name members = some value ↔ LastHolds name value members := by
  rw [lastMember?, Option.map_eq_some_iff]
  constructor
  · rintro ⟨⟨found, _⟩, isFound, rfl⟩
    obtain ⟨named, back, front, parts, others⟩ := List.find?_eq_some_iff_append.mp isFound
    obtain rfl : found = name := beq_iff_eq.mp named
    refine ⟨front.reverse, back.reverse, ?_, ?_⟩
    · rw [← List.reverse_reverse members, parts]
      simp
    · intro member inside
      simpa using others member (List.mem_reverse.mp inside)
  · rintro ⟨front, back, rfl, others⟩
    refine ⟨(name, value), List.find?_eq_some_iff_append.mpr ⟨beq_self_eq_true name, ?_⟩, rfl⟩
    refine ⟨back.reverse, front.reverse, by simp, fun member inside => ?_⟩
    simpa using others member (List.mem_reverse.mp inside)

theorem lastMember?_eq_none_iff {α : Type} {name : String} {members : List (String × α)} :
    lastMember? name members = none ↔ Lacks name members := by
  simp [lastMember?, Lacks]

/-- The name that the members of a row give. -/
inductive NamedBy (members : List (String × Value)) : String → Prop where
  | id {name : String} (holds : LastHolds "id" (.string name) members) : NamedBy members name
  | name {name : String} (noId : Lacks "id" members)
      (holds : LastHolds "name" (.string name) members) : NamedBy members name
  | unnamed (noId : Lacks "id" members) (noName : Lacks "name" members) : NamedBy members ""

theorem nameOfMembers_sound {members : List (String × Value)} {name : String}
    (named : nameOfMembers members = .ok name) : NamedBy members name := by
  rw [nameOfMembers] at named
  cases byId : lastMember? "id" members with
  | some value =>
      rw [byId, Option.orElse_some] at named
      split at named
      next absent => exact nomatch absent
      next text held =>
        obtain rfl := Except.ok.inj named
        obtain rfl := Option.some.inj held
        exact .id (lastMember?_eq_some_iff.mp byId)
      next => exact nomatch named
  | none =>
      have noId := lastMember?_eq_none_iff.mp byId
      rw [byId, Option.orElse_none] at named
      split at named
      next noName =>
        obtain rfl := Except.ok.inj named
        exact .unnamed noId (lastMember?_eq_none_iff.mp noName)
      next text held =>
        obtain rfl := Except.ok.inj named
        exact .name noId (lastMember?_eq_some_iff.mp held)
      next => exact nomatch named

theorem nameOfMembers_complete {members : List (String × Value)} {name : String}
    (named : NamedBy members name) : nameOfMembers members = .ok name := by
  rw [nameOfMembers]
  cases named with
  | id holds =>
      rw [lastMember?_eq_some_iff.mpr holds]
      rfl
  | name noId holds =>
      rw [lastMember?_eq_none_iff.mpr noId, lastMember?_eq_some_iff.mpr holds]
      rfl
  | unnamed noId noName =>
      rw [lastMember?_eq_none_iff.mpr noId, lastMember?_eq_none_iff.mpr noName]
      rfl

/-! ## Rows -/

/-- The text is a row with a name. -/
def IsRow (text : List Char) (name : String) : Prop :=
  ∃ members, JsonText rowLimits text (.object members) ∧ NamedBy members name

theorem nameOfRow_eq_ok_iff {text : List Char} {name : String} :
    nameOfRow text = .ok name ↔ IsRow text name := by
  rw [nameOfRow]
  constructor
  · intro named
    split at named
    next => exact nomatch named
    next members isRead => exact ⟨members, read_eq_ok_iff.mp isRead, nameOfMembers_sound named⟩
    next => exact nomatch named
  · rintro ⟨members, spelled, named⟩
    rw [read_eq_ok_iff.mpr spelled]
    exact nameOfMembers_complete named

/-! ## Lines -/

/-- What is left of a line without the blanks around it and without one comma at its end. -/
def IsRowText (line text : List Char) : Prop :=
  ∃ lead trimmed trail, Blanks lead ∧ Blanks trail ∧ Trimmed trimmed ∧
    line = lead ++ (trimmed ++ trail) ∧
    (trimmed = text ++ [','] ∨ trimmed = text ∧ trimmed.getLast? ≠ some ',')

theorem isRowText_iff {line : String} {text : List Char} :
    IsRowText line.toList text ↔ rowText line = text := by
  constructor
  · rintro ⟨lead, trimmed, trail, leadBlanks, trailBlanks, sharp, parts, comma⟩
    have same : trimBlank line.toList = trimmed := by
      rw [parts, trimBlank_eq leadBlanks trailBlanks sharp]
    rw [rowText, same]
    rcases comma with rfl | ⟨rfl, noComma⟩
    · rw [List.getLast?_concat, if_pos rfl, List.dropLast_concat]
    · exact if_neg noComma
  · rintro rfl
    obtain ⟨lead, trail, leadBlanks, trailBlanks, parts⟩ := exists_eq_trimBlank line.toList
    refine ⟨lead, trimBlank line.toList, trail, leadBlanks, trailBlanks, trimmed_trimBlank _,
      parts, ?_⟩
    rw [rowText]
    split
    next comma => exact .inl (List.dropLast_append_getLast? ',' comma).symm
    next noComma => exact .inr ⟨rfl, noComma⟩

/-- Nothing is left of the line, or it begins with the brackets that close the list. -/
def IsPassedOver (text : List Char) : Prop :=
  text = [] ∨ [']', '}'] <+: text

theorem closesRows_iff {text : List Char} : closesRows text = true ↔ [']', '}'] <+: text := by
  rw [closesRows, beq_iff_eq, List.prefix_iff_eq_take]
  exact eq_comm

/-- A text that spells a value is not passed over. -/
theorem not_isPassedOver {limits : Limits} {text : List Char} {value : Value}
    (spelled : JsonText limits text value) : ¬ IsPassedOver text := by
  obtain ⟨before, body, behind, blankBefore, _, rfl, isValue⟩ := spelled.spelled
  obtain ⟨c, rest, rfl, starts⟩ := isValue.starts
  rintro (empty | ⟨further, closes⟩)
  · simp at empty
  · cases before with
    | nil => exact starts.2.1 (List.cons.inj closes).1.symm
    | cons d before =>
        obtain rfl := (List.cons.inj closes).1
        have space := blankBefore ']' List.mem_cons_self
        exact absurd space (by decide)

theorem nameOfRow_eq_error {text : List Char} (noRow : ∀ name, ¬ IsRow text name) :
    ∃ fault, nameOfRow text = .error fault := by
  cases named : nameOfRow text with
  | error fault => exact ⟨fault, rfl⟩
  | ok name => exact absurd (nameOfRow_eq_ok_iff.mp named) (noRow name)

theorem parseRow_of_isPassedOver {line : String} (passedOver : IsPassedOver (rowText line)) :
    parseRow line = .ok none := by
  have noRow : ∀ name, ¬ IsRow (rowText line) name :=
    fun _ ⟨_, spelled, _⟩ => not_isPassedOver spelled passedOver
  obtain ⟨fault, refused⟩ := nameOfRow_eq_error noRow
  rw [parseRow]
  rcases passedOver with empty | closes
  · exact if_pos (List.isEmpty_iff.mpr empty)
  · rw [refused]
    split
    next => rfl
    next => exact if_pos (closesRows_iff.mpr closes)

theorem parseRow_of_isRow {line name : String} (isRow : IsRow (rowText line) name) :
    parseRow line = .ok (some name) := by
  have some : ¬ (rowText line).isEmpty = true := by
    obtain ⟨_, spelled, _⟩ := isRow
    exact fun empty => not_isPassedOver spelled (.inl (List.isEmpty_iff.mp empty))
  rw [parseRow]
  rw [if_neg some, nameOfRow_eq_ok_iff.mpr isRow]

theorem parseRow_of_noRow {line : String} (taken : ¬ IsPassedOver (rowText line))
    (noRow : ∀ name, ¬ IsRow (rowText line) name) :
    ∃ reason, parseRow line = .error ⟨String.ofList (rowText line), reason⟩ := by
  obtain ⟨fault, refused⟩ := nameOfRow_eq_error noRow
  obtain ⟨some, noClose⟩ := not_or.mp taken
  refine ⟨fault.reason, ?_⟩
  rw [parseRow]
  rw [if_neg (fun empty => some (List.isEmpty_iff.mp empty)), refused]
  exact if_neg fun closes => noClose (closesRows_iff.mp closes)

/-- **What a line is read as.**  It is passed over, or it is read as the row that it is, or it is
malformed and reported without the blanks and the comma. -/
theorem parseRow_reads_exactly_rows (line : String) :
    (∀ text, IsRowText line.toList text ↔ rowText line = text) ∧
    (parseRow line = .ok none ↔ IsPassedOver (rowText line)) ∧
    (∀ name, parseRow line = .ok (some name) ↔
      ¬ IsPassedOver (rowText line) ∧ IsRow (rowText line) name) ∧
    ((∃ reason, parseRow line = .error ⟨String.ofList (rowText line), reason⟩) ↔
      ¬ IsPassedOver (rowText line) ∧ ∀ name, ¬ IsRow (rowText line) name) := by
  by_cases passedOver : IsPassedOver (rowText line)
  · simp [isRowText_iff, parseRow_of_isPassedOver passedOver, passedOver]
  · by_cases row : ∃ name, IsRow (rowText line) name
    · obtain ⟨name, isRow⟩ := row
      have only (other : String) : IsRow (rowText line) other ↔ name = other := by
        rw [← nameOfRow_eq_ok_iff, nameOfRow_eq_ok_iff.mpr isRow, Except.ok.injEq]
      simp [isRowText_iff, parseRow_of_isRow isRow, passedOver, only]
    · have noRow := not_exists.mp row
      obtain ⟨reason, refused⟩ := parseRow_of_noRow passedOver noRow
      simp [isRowText_iff, refused, passedOver, noRow]

-- The key and the name are decoded before they are looked at.
example : parseRow "\x7b\"\\u0069d\": \"caf\\u00e9\"\x7d, " = .ok (some "café") := by
  decide +kernel

end Typeahead.Catalog
