import Highlight.Proofs.Json.Enclosed

/-!
Records that are refused for one of their values. The members before it are read as usual, so the
reading of the whole record stops there and for the same cause, whatever comes after it.
-/

set_option autoImplicit false

namespace Highlight.Json

open Cursor (isSpace)

/-- Reading stopped for a cause. -/
def StopsFor {α : Type} (cause : Cause) (result : Except Failure α) : Prop :=
  ∃ failure, result = .error failure ∧ failure.cause = cause

/-- A text that is refused as a value, after any blanks and before anything that does not go on with
a numeral. -/
def RefusedAs {α : Type} (decode : Decoder α) (text : List Char) (cause : Cause) : Prop :=
  ∀ {cursor : Cursor} {blanks following : List Char},
    cursor.Before (blanks ++ (text ++ following)) → (∀ c ∈ blanks, isSpace c) →
      EndsNumeral following → StopsFor cause (decode cursor)

/-- No number is read from null. -/
theorem RefusedAs.numeric_null {α : Type} (expected : String)
    (convert : Numeral → Except Cause α) :
    RefusedAs (Decoder.numeric expected convert) "null".toList (.wrongType "null" expected) := by
  intro cursor blanks following here blank ends
  have next := here.skipBlanks blank (by decide)
  obtain ⟨after, read, -⟩ := Cursor.Before.word "null".toList next
  refine ⟨.placed (.wrongType "null" expected) after.mark, ?_, rfl⟩
  have mismatched : @Decoder.mismatch α expected cursor.skipBlanks =
      (cursor.skipBlanks.word "null".toList).bind fun after =>
        after.fail (.wrongType "null" expected) := by
    rw [Decoder.mismatch, next.rest_eq]
    rfl
  rw [Decoder.numeric, Decoder.beyondBlanks, next.rest_eq]
  change Decoder.mismatch expected cursor.skipBlanks = _
  rw [mismatched, read]
  rfl

/-- Members that can be read up to one that is refused. -/
inductive MembersStop (spacing : Spacing) {State : Type}
    (read : State → String → Cursor → Outcome State) (cause : Cause) :
    State → List (String × List Char) → Prop
  | here {state : State} {name : String} {text : List Char} {others : List (String × List Char)}
      (stops : ∀ {cursor : Cursor} {following : List Char}, EndsNumeral following →
        cursor.Before (':' :: (spacing.gap ++ (text ++ following))) →
          StopsFor cause (read state name cursor)) :
      MembersStop spacing read cause state ((name, text) :: others)
  | later {state middle : State} {name : String} {text : List Char}
      {others : List (String × List Char)} : LeadsTo spacing read state name text middle →
      MembersStop spacing read cause middle others →
      MembersStop spacing read cause state ((name, text) :: others)

/-- The first member that is refused stops the reading. -/
theorem Cursor.Before.members_stop {spacing : Spacing} {State : Type}
    {read : State → String → Cursor → Outcome State} {cause : Cause} {state : State}
    {parts : List (String × List Char)} (stop : MembersStop spacing read cause state parts)
    {fuel : Nat} (enough : parts.length < fuel) (isFirst : Bool) {cursor : Cursor}
    {following : List Char}
    (here : cursor.Before
      (spacing.inside '}' isFirst (parts.map spacing.memberText) ++ following)) :
    StopsFor cause (Cursor.members read fuel isFirst state cursor) := by
  induction stop generalizing cursor fuel isFirst with
  | @here state name text others stops =>
    obtain ⟨fuel, rfl⟩ := Nat.exists_eq_add_of_lt enough
    obtain ⟨afterName, named, ends, step⟩ := here.members_cons isFirst _
    obtain ⟨failure, failed, cause_eq⟩ := stops ends named
    refine ⟨failure, ?_, cause_eq⟩
    rw [step, failed]
    rfl
  | @later state middle name text others first _ inductionHypothesis =>
    obtain ⟨fuel, rfl⟩ := Nat.exists_eq_add_of_lt enough
    obtain ⟨afterName, named, ends, step⟩ := here.members_cons isFirst _
    obtain ⟨after, firstRead, next⟩ := first ends named
    have shorter : others.length < ((name, text) :: others).length + fuel := by
      rw [List.length_cons]
      omega
    rw [step, firstRead]
    exact inductionHypothesis shorter false next

section

variable {Record : Type} {fields : List (Decoder.Field Record)}

variable {α : Type} {name : String} {decode : Decoder α} {set : Record → α → Record}
  {seen : List String} {text : List Char}

/-- A field that may be missing is read when it is there. -/
theorem leadsTo_optional (spacing : Spacing)
    (known : fields.find? (·.name == name) = some (.optional name decode set))
    (unseen : name ∉ seen) {value : α} (reads : ReadsAs decode text value) (record : Record) :
    LeadsTo spacing (Decoder.member fields) (record, seen) name text
      (set record value, name :: seen) :=
  @leadsTo_field Record fields spacing (.optional name reads set) known seen unseen record

theorem membersStop_optional (spacing : Spacing)
    (known : fields.find? (·.name == name) = some (.optional name decode set))
    (unseen : name ∉ seen) {cause : Cause} (refused : RefusedAs decode text cause)
    (record : Record) (others : List (String × List Char)) :
    MembersStop spacing (Decoder.member fields) cause (record, seen) ((name, text) :: others) := by
  refine .here ?_
  intro cursor following ends here
  obtain ⟨afterColon, colonRead, before⟩ := here.colon
  obtain ⟨failure, failed, cause_eq⟩ := refused before spacing.gap_blank ends
  refine ⟨failure, ?_, cause_eq⟩
  rw [Decoder.member, known]
  simp [unseen, colonRead, Decoder.Field.optional, failed, bind, Except.bind, Except.map]

theorem RefusedAs.record (spacing : Spacing) (description : String) {initial : Record}
    {parts : List (String × List Char)} {cause : Cause}
    (stop : MembersStop spacing (Decoder.member fields) cause (initial, []) parts) :
    RefusedAs (Decoder.record description fields initial)
      (spacing.enclose '{' '}' (parts.map spacing.memberText)) cause := by
  intro cursor blanks following here blank ends
  have next := here.skipBlanks blank (by decide)
  have inside := next.advance
  have enough := inside.length_le_bound
  rw [List.length_map] at enough
  obtain ⟨failure, failed, cause_eq⟩ := inside.members_stop stop enough true
  have named : Decoder.named fields initial cursor.skipBlanks.advance = .error failure := by
    rw [Decoder.named, failed]
    rfl
  rw [Decoder.record, Decoder.beyondBlanks, next.rest_eq]
  change StopsFor cause (Cursor.enclosed _ _ _)
  rw [Cursor.enclosed, named]
  cases failure with
  | placed cause mark => exact ⟨_, rfl, cause_eq⟩
  | unplaced cause stopped => exact ⟨_, rfl, cause_eq⟩

end

theorem RefusedAs.readAll {α : Type} {decode : Decoder α} {text : String} {cause : Cause}
    (refused : RefusedAs decode text.toList cause) : StopsFor cause (Json.readAll decode text) := by
  have start : (Cursor.start text.toList).Before ([] ++ (text.toList ++ [])) := by
    rw [List.append_nil]
    exact Cursor.before_start _
  obtain ⟨failure, failed, cause_eq⟩ := refused start (by simp) (by simp [EndsNumeral])
  refine ⟨failure, ?_, cause_eq⟩
  rw [Json.readAll, failed]
  rfl

end Highlight.Json
