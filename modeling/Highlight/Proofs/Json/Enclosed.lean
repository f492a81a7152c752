import Highlight.Proofs.Json.Written

/-!
Reading lists and records that were written. The parts between the brackets are read one after the
other; what is known of one part carries over to all of them, whatever blanks are between them.
-/

set_option autoImplicit false

namespace Highlight.Json

open Cursor (isSpace)

/-- The blanks between brackets: before each part, between a name and its value, and after the last
part. -/
structure Spacing where
  before : List Char
  gap : List Char
  after : List Char
  before_blank : ∀ c ∈ before, isSpace c
  gap_blank : ∀ c ∈ gap, isSpace c
  after_blank : ∀ c ∈ after, isSpace c

namespace Spacing

/-- What separates a part from the one before it, if there is one. -/
def comma (isFirst : Bool) : List Char :=
  if isFirst then [] else [',']

/-- The blanks after the parts, if there are parts. -/
def ending (spacing : Spacing) (isFirst : Bool) : List Char :=
  if isFirst then [] else spacing.after

/-- What stands between the brackets from some part on, with the closing bracket. -/
def inside (spacing : Spacing) (closing : Char) : Bool → List (List Char) → List Char
  | isFirst, [] => spacing.ending isFirst ++ [closing]
  | isFirst, part :: parts =>
    comma isFirst ++ (spacing.before ++ (part ++ spacing.inside closing false parts))

def enclose (spacing : Spacing) (opening closing : Char) (parts : List (List Char)) : List Char :=
  opening :: spacing.inside closing true parts

variable (spacing : Spacing) (closing : Char)

theorem ending_blank (isFirst : Bool) : ∀ c ∈ spacing.ending isFirst, isSpace c := by
  cases isFirst with
  | false => exact spacing.after_blank
  | true => simp [ending]

/-- There is a character for each part, as all but the first have a comma. -/
theorem length_lt_length_inside (isFirst : Bool) (parts : List (List Char)) :
    parts.length < (spacing.inside closing isFirst parts).length + isFirst.toNat := by
  induction parts generalizing isFirst with
  | nil =>
    simp only [inside, List.length_append, List.length_cons]
    omega
  | cons part parts inductionHypothesis =>
    have others := inductionHypothesis false
    have separated : (comma isFirst).length + isFirst.toNat = 1 := by
      cases isFirst <;> rfl
    simp only [inside, List.length_append, List.length_cons, Bool.toNat_false] at others ⊢
    omega

/-- No numeral goes on with what follows a part. -/
theorem endsNumeral_inside {closing : Char} (ends : isNumeralCharacter closing = false)
    (parts : List (List Char)) (following : List Char) :
    EndsNumeral (spacing.inside closing false parts ++ following) := by
  intro c first
  cases parts with
  | cons part parts =>
    obtain rfl := Option.some.inj first
    rfl
  | nil =>
    rw [inside, ending] at first
    cases after_eq : spacing.after with
    | nil =>
      rw [after_eq] at first
      obtain rfl := Option.some.inj first
      exact ends
    | cons d others =>
      rw [after_eq] at first
      obtain rfl := Option.some.inj first
      refine not_isNumeralCharacter_of_isSpace (spacing.after_blank _ ?_)
      simp [after_eq]

end Spacing

/-! ## Lists -/

namespace Cursor

theorem enclosed_eq_ok {α : Type} {ending : Cursor → Cursor × Option Failure}
    {read : Cursor → Outcome α} {cursor next after : Cursor} {value : α}
    (inner : read cursor.advance = .ok (value, next)) (ended : ending next = (after, none)) :
    enclosed ending read cursor = .ok (value, after) := by
  simp [enclosed, inner, ended]

namespace Before

variable {cursor : Cursor} {following : List Char}

theorem length_le_bound {spacing : Spacing} {closing : Char} {parts : List (List Char)}
    (here : cursor.Before (spacing.inside closing true parts ++ following)) :
    parts.length < cursor.bound + 1 := by
  have fits := here.fits
  have shorter := spacing.length_lt_length_inside closing true parts
  rw [Bool.toNat_true] at shorter
  rw [List.length_append] at fits
  omega

theorem endOfList (here : cursor.Before (']' :: following)) :
    ∃ after, Cursor.endOfList cursor = (after, none) ∧ after.Before following := by
  have next := here.skipNoBlanks (by decide)
  refine ⟨cursor.skipBlanks.advance, ?_, next.advance⟩
  rw [Cursor.endOfList, next.rest_eq]
  rfl

/-- Blanks lead to the start of the first part, and a comma before them to that of any other. -/
theorem partStarts {isFirst : Bool} {blanks text : List Char} (blank : ∀ c ∈ blanks, isSpace c)
    {c : Char} (notBlank : isSpace c = false)
    (here : cursor.Before (Spacing.comma isFirst ++ (blanks ++ c :: text))) :
    ∃ start, cursor.PartStarts isFirst start ∧ start.Before (c :: text) := by
  cases isFirst with
  | true => exact ⟨_, .first, here.skipBlanks blank notBlank⟩
  | false =>
    have next := here.skipNoBlanks (by decide)
    exact ⟨_, .later next.rest_eq, next.advance.skipBlanks blank notBlank⟩

variable {Item : Type} {item : Decoder Item}

theorem itemStep {value : Item} {text : List Char} (reads : ReadsAs item text value)
    (newestFirst : List Item) {blanks : List Char} (blank : ∀ c ∈ blanks, isSpace c)
    (ends : EndsNumeral following) (fuel : Nat)
    (here : cursor.Before
      (Spacing.comma newestFirst.isEmpty ++ (blanks ++ (text ++ following)))) :
    ∃ after, items item (fuel + 1) newestFirst cursor =
        items item fuel (value :: newestFirst) after ∧ after.Before following := by
  obtain ⟨c, rest, rfl, notBlank, notClosing⟩ := reads.opens
  obtain ⟨start, starts, before⟩ := here.partStarts blank notBlank
  obtain ⟨after, read, last⟩ := reads.readsHere before ends
  have isHead : c ∈ start.rest.head? := congrArg List.head? before.rest_eq
  refine ⟨after, ?_, last⟩
  rw [items_of_starts starts ⟨c, isHead, notClosing⟩, read]
  rfl

theorem items (spacing : Spacing) {write : Item → List Char} (values : List Item)
    (each : ∀ value ∈ values, ReadsAs item (write value) value) {fuel : Nat}
    (enough : values.length < fuel) (newestFirst : List Item)
    (here : cursor.Before
      (spacing.inside ']' newestFirst.isEmpty (values.map write) ++ following)) :
    ∃ last, Cursor.items item fuel newestFirst cursor =
        .ok (newestFirst.reverse ++ values, last) ∧ last.Before (']' :: following) := by
  induction values generalizing cursor newestFirst fuel with
  | nil =>
    obtain ⟨fuel, rfl⟩ := Nat.exists_eq_add_of_lt enough
    rw [List.map_nil, Spacing.inside, List.append_assoc] at here
    have next := here.skipBlanks (spacing.ending_blank _) (by decide)
    refine ⟨cursor.skipBlanks, ?_, next⟩
    rw [List.length_nil, Cursor.items, next.rest_eq]
    simp
  | cons value values inductionHypothesis =>
    have closes : isNumeralCharacter ']' = false := by decide
    obtain ⟨first, others⟩ := List.forall_mem_cons.mp each
    obtain ⟨fuel, rfl⟩ := Nat.exists_eq_add_of_lt enough
    rw [List.map_cons, Spacing.inside, List.append_assoc, List.append_assoc,
      List.append_assoc] at here
    have ends := spacing.endsNumeral_inside closes (values.map write) following
    obtain ⟨after, step, next⟩ := itemStep first newestFirst spacing.before_blank ends _ here
    have shorter : values.length < (value :: values).length + fuel := by
      rw [List.length_cons]
      omega
    obtain ⟨last, read, before⟩ :=
      inductionHypothesis others shorter (value :: newestFirst) next
    refine ⟨last, ?_, before⟩
    rw [step, read, List.reverse_cons, List.append_assoc]
    rfl

theorem list (spacing : Spacing) {write : Item → List Char} {values : List Item}
    (each : ∀ value ∈ values, ReadsAs item (write value) value)
    (here : cursor.Before (spacing.enclose '[' ']' (values.map write) ++ following)) :
    ∃ after, Cursor.list item cursor = .ok (values, after) ∧ after.Before following := by
  have inside := here.advance
  have enough := inside.length_le_bound
  rw [List.length_map] at enough
  obtain ⟨next, read, before⟩ := inside.items spacing values each enough []
  obtain ⟨after, ended, last⟩ := before.endOfList
  exact ⟨after, Cursor.enclosed_eq_ok read ended, last⟩

end Before

end Cursor

theorem ReadsAs.listOf (spacing : Spacing) {Item : Type} {item : Decoder Item}
    {write : Item → List Char} {values : List Item}
    (each : ∀ value ∈ values, ReadsAs item (write value) value) :
    ReadsAs (Decoder.listOf item) (spacing.enclose '[' ']' (values.map write)) values := by
  have notBlank : isSpace '[' = false := by decide
  refine beyondBlanks notBlank (by decide) ?_
  intro cursor following here ends
  exact here.list spacing each

/-! ## Members -/

def Spacing.memberText (spacing : Spacing) (member : String × List Char) : List Char :=
  (renderString member.1).toList ++ ':' :: (spacing.gap ++ member.2)

/-- After its name a member leads from one state to another, whatever follows it that does not go
on with a numeral. -/
def LeadsTo (spacing : Spacing) {State : Type} (read : State → String → Cursor → Outcome State)
    (state : State) (name : String) (text : List Char) (newState : State) : Prop :=
  ∀ {cursor : Cursor} {following : List Char}, EndsNumeral following →
    cursor.Before (':' :: (spacing.gap ++ (text ++ following))) →
      ∃ after, read state name cursor = .ok (newState, after) ∧ after.Before following

/-- Members, each a name and a text, that lead from one state to another. -/
inductive MembersLead (spacing : Spacing) {State : Type}
    (read : State → String → Cursor → Outcome State) :
    State → List (String × List Char) → State → Prop
  | nil {state : State} : MembersLead spacing read state [] state
  | cons {state middle final : State} {name : String} {text : List Char}
      {others : List (String × List Char)} : LeadsTo spacing read state name text middle →
      MembersLead spacing read middle others final →
      MembersLead spacing read state ((name, text) :: others) final

/-! ## Records -/

/-- A field as it is written, and what reading it makes of a record. -/
structure WrittenField (Record : Type) where
  field : Decoder.Field Record
  text : List Char
  set : Record → Record
  reads : ∀ record, ReadsAs (field.decode record) text (set record)

namespace WrittenField

variable {Record α : Type}

theorem reads_optional {decode : Decoder α} {text : List Char} {value : α}
    (reads : ReadsAs decode text value) (name : String) (set : Record → α → Record)
    (record : Record) :
    ReadsAs ((Decoder.Field.optional name decode set).decode record) text (set record value) where
  opens := reads.opens
  reads := by
    intro cursor blanks following here blank ends
    obtain ⟨after, read, last⟩ := reads.reads here blank ends
    refine ⟨after, ?_, last⟩
    change (decode cursor).map _ = _
    rw [read]
    rfl

def optional {decode : Decoder α} {text : List Char} {value : α} (name : String)
    (reads : ReadsAs decode text value) (set : Record → α → Record) : WrittenField Record where
  field := .optional name decode set
  text := text
  set := fun record => set record value
  reads := reads_optional reads name set

def required {decode : Decoder α} {text : List Char} {value : α} (name : String)
    (reads : ReadsAs decode text value) (set : Record → α → Record) : WrittenField Record where
  field := .required name decode set
  text := text
  set := fun record => set record value
  reads := reads_optional reads name set

def name (written : WrittenField Record) : String :=
  written.field.name

def memberText (spacing : Spacing) (written : WrittenField Record) : List Char :=
  spacing.memberText (written.name, written.text)

section

variable {decode : Decoder α} {text : List Char} {value : α} (name : String)
  (reads : ReadsAs decode text value) (set : Record → α → Record)

theorem set_optional (record : Record) : (optional name reads set).set record = set record value :=
  rfl

theorem set_required (record : Record) : (required name reads set).set record = set record value :=
  rfl

theorem memberText_optional (spacing : Spacing) :
    (optional name reads set).memberText spacing =
      (renderString name).toList ++ ':' :: (spacing.gap ++ text) := rfl

theorem memberText_required (spacing : Spacing) :
    (required name reads set).memberText spacing =
      (renderString name).toList ++ ':' :: (spacing.gap ++ text) := rfl

end

/-- The record that reading the fields in their order leads to. -/
def result (fields : List (WrittenField Record)) (initial : Record) : Record :=
  fields.foldl (fun record written => written.set record) initial

end WrittenField

namespace Cursor.Before

variable {cursor : Cursor} {following : List Char}

theorem endOfObject (here : cursor.Before ('}' :: following)) :
    ∃ after, Cursor.endOfObject cursor = (after, none) ∧ after.Before following := by
  have next := here.skipNoBlanks (by decide)
  refine ⟨cursor.skipBlanks.advance, ?_, next.advance⟩
  rw [Cursor.endOfObject, next.rest_eq]
  rfl

theorem memberStep {State : Type} {read : State → String → Cursor → Outcome State} {name : String}
    {state : State} {text : List Char} (isFirst : Bool) {blanks : List Char}
    (blank : ∀ c ∈ blanks, isSpace c) (fuel : Nat)
    (here : cursor.Before
      (Spacing.comma isFirst ++ (blanks ++ ((renderString name).toList ++ text)))) :
    ∃ afterName, afterName.Before text ∧ members read (fuel + 1) isFirst state cursor =
      (read state name afterName).bind fun (newState, after) =>
        members read fuel false newState after := by
  obtain ⟨rest, quoted⟩ : ∃ rest, (renderString name).toList = '\"' :: rest :=
    ⟨_, toList_renderString name⟩
  rw [quoted, List.cons_append] at here
  obtain ⟨start, starts, before⟩ := here.partStarts blank (by decide)
  have isHead : start.rest.head? = some '\"' := congrArg List.head? before.rest_eq
  rw [← List.cons_append, ← quoted] at before
  obtain ⟨afterName, nameRead, beforeText⟩ := before.string
  refine ⟨afterName, beforeText, ?_⟩
  rw [members_of_starts starts isHead, nameRead]
  rfl

theorem members_cons {spacing : Spacing} {State : Type}
    {read : State → String → Cursor → Outcome State} {state : State} {name : String}
    {text : List Char} {others : List (String × List Char)} (isFirst : Bool) (fuel : Nat)
    (here : cursor.Before
      (spacing.inside '}' isFirst (((name, text) :: others).map spacing.memberText) ++ following)) :
    let rest := spacing.inside '}' false (others.map spacing.memberText) ++ following
    ∃ afterName, afterName.Before (':' :: (spacing.gap ++ (text ++ rest))) ∧ EndsNumeral rest ∧
      Cursor.members read (fuel + 1) isFirst state cursor =
        (read state name afterName).bind fun (newState, after) =>
          Cursor.members read fuel false newState after := by
  intro rest
  rw [List.map_cons, Spacing.inside, Spacing.memberText] at here
  simp only [List.append_assoc, List.cons_append] at here
  obtain ⟨afterName, named, step⟩ := memberStep isFirst spacing.before_blank fuel here
  exact ⟨afterName, named, spacing.endsNumeral_inside (by decide) _ following, step⟩

theorem members {spacing : Spacing} {State : Type}
    {read : State → String → Cursor → Outcome State} {state final : State}
    {parts : List (String × List Char)} (lead : MembersLead spacing read state parts final)
    {fuel : Nat} (enough : parts.length < fuel) (isFirst : Bool)
    (here : cursor.Before
      (spacing.inside '}' isFirst (parts.map spacing.memberText) ++ following)) :
    ∃ last, Cursor.members read fuel isFirst state cursor = .ok (final, last) ∧
      last.Before ('}' :: following) := by
  induction lead generalizing cursor fuel isFirst with
  | nil =>
    obtain ⟨fuel, rfl⟩ := Nat.exists_eq_add_of_lt enough
    rw [List.map_nil, Spacing.inside, List.append_assoc] at here
    have next := here.skipBlanks (spacing.ending_blank _) (by decide)
    refine ⟨cursor.skipBlanks, ?_, next⟩
    rw [List.length_nil, Cursor.members, next.rest_eq]
    simp
  | @cons state middle final name text others first later inductionHypothesis =>
    obtain ⟨fuel, rfl⟩ := Nat.exists_eq_add_of_lt enough
    obtain ⟨afterName, named, ends, step⟩ := here.members_cons isFirst _
    obtain ⟨after, firstRead, next⟩ := first ends named
    have shorter : others.length < ((name, text) :: others).length + fuel := by
      rw [List.length_cons]
      omega
    obtain ⟨last, read, before⟩ := inductionHypothesis shorter false next
    refine ⟨last, ?_, before⟩
    rw [step, firstRead]
    exact read

end Cursor.Before

section

variable {Record : Type} {fields : List (Decoder.Field Record)}

theorem leadsTo_field (spacing : Spacing) {written : WrittenField Record}
    (known : fields.find? (·.name == written.name) = some written.field) {seen : List String}
    (unseen : written.name ∉ seen) (record : Record) :
    LeadsTo spacing (Decoder.member fields) (record, seen) written.name written.text
      (written.set record, written.name :: seen) := by
  intro cursor following ends here
  obtain ⟨afterColon, colonRead, before⟩ := here.colon
  obtain ⟨after, read, last⟩ := (written.reads record).reads before spacing.gap_blank ends
  refine ⟨after, ?_, last⟩
  rw [Decoder.member, known]
  simp [unseen, colonRead, read, bind, Except.bind, pure, Except.pure]

/-- Fields with different names lead to the record that they describe. -/
theorem membersLead_fields (spacing : Spacing) (written : List (WrittenField Record))
    (known : ∀ field ∈ written, fields.find? (·.name == field.name) = some field.field)
    (distinct : (written.map (·.name)).Nodup) {seen : List String}
    (unseen : ∀ field ∈ written, field.name ∉ seen) (record : Record) :
    MembersLead spacing (Decoder.member fields) (record, seen)
      (written.map fun field => (field.name, field.text))
      (WrittenField.result written record, (written.map (·.name)).reverse ++ seen) := by
  induction written generalizing seen record with
  | nil => exact .nil
  | cons field others inductionHypothesis =>
    obtain ⟨knownFirst, knownOthers⟩ := List.forall_mem_cons.mp known
    obtain ⟨unseenFirst, unseenOthers⟩ := List.forall_mem_cons.mp unseen
    rw [List.map_cons, List.nodup_cons] at distinct
    have unseenNext : ∀ other ∈ others, other.name ∉ field.name :: seen := by
      intro other isOther
      rw [List.mem_cons, not_or]
      refine ⟨?_, unseenOthers other isOther⟩
      intro same
      exact distinct.1 (same ▸ List.mem_map_of_mem isOther)
    have later := inductionHypothesis knownOthers distinct.2 unseenNext (field.set record)
    rw [List.map_cons, List.map_cons, List.reverse_cons, List.append_assoc]
    exact .cons (leadsTo_field spacing knownFirst unseenFirst record) later

end

theorem Decoder.Field.find?_eq_some {Record : Type} {fields : List (Decoder.Field Record)}
    (distinct : (fields.map (·.name)).Nodup) {field : Decoder.Field Record}
    (isOne : field ∈ fields) :
    fields.find? (·.name == field.name) = some field := by
  induction fields with
  | nil => contradiction
  | cons first others inductionHypothesis =>
    rw [List.map_cons, List.nodup_cons] at distinct
    rcases List.mem_cons.mp isOne with rfl | isOther
    · exact List.find?_cons_of_pos (by simp)
    · rw [List.find?_cons_of_neg, inductionHypothesis distinct.2 isOther]
      rw [beq_iff_eq]
      intro same
      exact distinct.1 (same ▸ List.mem_map_of_mem isOther)

/-- A record is read from an object with all its fields in their order. -/
theorem ReadsAs.record (spacing : Spacing) (description : String) {Record : Type}
    {fields : List (Decoder.Field Record)} (distinct : (fields.map (·.name)).Nodup)
    {written : List (WrittenField Record)} (fields_eq : written.map (·.field) = fields)
    {initial result : Record} (result_eq : WrittenField.result written initial = result) :
    ReadsAs (Decoder.record description fields initial)
      (spacing.enclose '{' '}' (written.map (·.memberText spacing))) result := by
  have notBlank : isSpace '{' = false := by decide
  rw [Decoder.record]
  refine beyondBlanks notBlank (by decide) ?_
  intro cursor following here ends
  have inside := here.advance
  have enough := inside.length_le_bound
  rw [List.length_map, ← List.length_map (fun field => (field.name, field.text))] at enough
  have parts : written.map (·.memberText spacing) =
      (written.map fun field => (field.name, field.text)).map spacing.memberText := by
    rw [List.map_map]
    rfl
  rw [parts] at inside
  have names : written.map (·.name) = fields.map (·.name) := by
    rw [← fields_eq, List.map_map]
    rfl
  have isField : ∀ one ∈ written, one.field ∈ fields := by
    intro one isWritten
    rw [← fields_eq]
    exact List.mem_map_of_mem isWritten
  have known : ∀ one ∈ written, fields.find? (·.name == one.name) = some one.field :=
    fun one isWritten => Decoder.Field.find?_eq_some distinct (isField one isWritten)
  have lead := membersLead_fields spacing written known (names ▸ distinct)
    (fun _ _ => List.not_mem_nil) initial
  rw [List.append_nil, names] at lead
  obtain ⟨next, read, before⟩ := inside.members lead enough true
  obtain ⟨after, ended, last⟩ := before.endOfObject
  -- No field is missing, as all of them are written.
  have complete : fields.find? (fun field =>
      field.isRequired && !((fields.map (·.name)).reverse).contains field.name) = none := by
    rw [List.find?_eq_none]
    intro field isOne
    have seen : field.name ∈ (fields.map (·.name)).reverse :=
      List.mem_reverse.mpr (List.mem_map_of_mem isOne)
    simp [seen]
  have named : Decoder.named fields initial cursor.advance = .ok (result, next) := by
    rw [Decoder.named, read, ← result_eq]
    simp only [bind, Except.bind, complete]
    rfl
  exact ⟨after, Cursor.enclosed_eq_ok named ended, last⟩

/-! ## Values of any shape -/

namespace Cursor

variable {cursor after : Cursor} {rest : List Char} {levels inner : Nat}

theorem value_of_string {text : String} (present : cursor.skipBlanks.rest = '\"' :: rest)
    (read : cursor.skipBlanks.string = .ok (text, after)) :
    value levels cursor = .ok (.string text, after) := by
  unfold value
  dsimp only
  rw [present]
  simp [read, bind, Except.bind, pure, Except.pure]

theorem value_of_list {items : List Json} (present : cursor.skipBlanks.rest = '[' :: rest)
    (read : Cursor.list (value inner) cursor.skipBlanks = .ok (items, after)) :
    value (inner + 1) cursor = .ok (.array items, after) := by
  rw [value, present]
  simp [read, bind, Except.bind, pure, Except.pure]

theorem value_of_object {members : List (String × Json)}
    (present : cursor.skipBlanks.rest = '{' :: rest)
    (read : Cursor.object (value inner) cursor.skipBlanks = .ok (members, after)) :
    value (inner + 1) cursor = .ok (.object members, after) := by
  rw [value, present]
  simp [read, bind, Except.bind, pure, Except.pure]

end Cursor

/-- Members are collected in the order of their names. -/
theorem membersLead_sorted (spacing : Spacing) {read : Decoder Json} {write : Json → List Char}
    {members : List (String × Json)}
    (each : ∀ member ∈ members, ReadsAs read (write member.2) member.2)
    (known : List (String × Json)) :
    MembersLead spacing (Cursor.sortedMember read) known
      (members.map fun member => (member.1, write member.2))
      (members.foldl (fun known member => insertMember member.1 member.2 known) known) := by
  induction members generalizing known with
  | nil => exact .nil
  | cons member others inductionHypothesis =>
    obtain ⟨own, later⟩ := List.forall_mem_cons.mp each
    have leads : LeadsTo spacing (Cursor.sortedMember read) known member.1 (write member.2)
        (insertMember member.1 member.2 known) := by
      intro cursor following ends here
      obtain ⟨afterColon, colonRead, before⟩ := here.colon
      obtain ⟨after, valueRead, last⟩ := own.reads before spacing.gap_blank ends
      refine ⟨after, ?_, last⟩
      simp [Cursor.sortedMember, colonRead, valueRead, bind, Except.bind, pure, Except.pure]
    exact .cons leads (inductionHypothesis later _)

namespace ReadsAs

variable {levels : Nat}

/-- A value that the reader of all values reads from its first character on. -/
theorem value {json : Json} {c : Char} {rest : List Char} (notBlank : isSpace c = false)
    (notClosing : c ≠ ']')
    (reads : ∀ {cursor : Cursor} {following : List Char},
      cursor.skipBlanks.Before (c :: (rest ++ following)) →
        ∃ after, Cursor.value levels cursor = .ok (json, after) ∧ after.Before following) :
    ReadsAs (Cursor.value levels) (c :: rest) json where
  opens := ⟨c, rest, rfl, notBlank, notClosing⟩
  reads := fun here blank _ => reads (here.skipBlanks blank notBlank)

theorem valueString (text : String) :
    ReadsAs (Cursor.value levels) (renderString text).toList (.string text) := by
  rw [toList_renderString]
  have notBlank : isSpace '\"' = false := by decide
  refine value notBlank (by decide) ?_
  intro cursor following next
  have quoted := next
  rw [← List.cons_append, ← toList_renderString] at quoted
  obtain ⟨after, read, last⟩ := quoted.string
  exact ⟨after, Cursor.value_of_string next.rest_eq read, last⟩

theorem valueArray (spacing : Spacing) {write : Json → List Char} {items : List Json}
    (each : ∀ item ∈ items, ReadsAs (Cursor.value levels) (write item) item) :
    ReadsAs (Cursor.value (levels + 1)) (spacing.enclose '[' ']' (items.map write))
      (.array items) := by
  have notBlank : isSpace '[' = false := by decide
  refine value notBlank (by decide) ?_
  intro cursor following next
  obtain ⟨after, read, last⟩ := Cursor.Before.list spacing each next
  exact ⟨after, Cursor.value_of_list next.rest_eq read, last⟩

theorem valueObject (spacing : Spacing) (write : Json → List Char)
    {members : List (String × Json)}
    (each : ∀ member ∈ members, ReadsAs (Cursor.value levels) (write member.2) member.2)
    (sorted : members.foldl (fun known member => insertMember member.1 member.2 known) [] =
      members) :
    ReadsAs (Cursor.value (levels + 1))
      (spacing.enclose '{' '}'
        (members.map fun member => spacing.memberText (member.1, write member.2)))
      (.object members) := by
  have notBlank : isSpace '{' = false := by decide
  refine value notBlank (by decide) ?_
  intro cursor following next
  have inside := next.advance
  have enough := inside.length_le_bound
  have parts : (members.map fun member => spacing.memberText (member.1, write member.2)) =
      (members.map fun member => (member.1, write member.2)).map spacing.memberText := by
    rw [List.map_map]
    rfl
  rw [parts] at inside enough
  rw [List.length_map] at enough
  have lead := membersLead_sorted spacing each []
  rw [sorted] at lead
  obtain ⟨middle, read, before⟩ := inside.members lead enough true
  obtain ⟨after, ended, last⟩ := before.endOfObject
  exact ⟨after, Cursor.value_of_object next.rest_eq (Cursor.enclosed_eq_ok read ended), last⟩

end ReadsAs

/-! ## Texts of lists and objects -/

/-- Parts between brackets are put together with what separates them. -/
theorem Spacing.append_inside (spacing : Spacing) (closing : Char) {separator : String}
    (separates : separator.toList = ',' :: spacing.before) (first : String)
    (others : List String) :
    first.toList ++ spacing.inside closing false (others.map String.toList) =
      (String.intercalate separator (first :: others)).toList ++ (spacing.after ++ [closing]) := by
  induction others generalizing first with
  | nil => simp [Spacing.inside, Spacing.ending]
  | cons second others inductionHypothesis =>
    rw [List.map_cons, Spacing.inside, inductionHypothesis, String.intercalate_cons_cons]
    simp [Spacing.comma, separates]

/-! ### In one line -/

def Spacing.tight : Spacing where
  before := []
  gap := []
  after := []
  before_blank := by simp
  gap_blank := by simp
  after_blank := by simp

theorem compact_string (text : String) : compact (.string text) = renderString text := by
  rw [compact]

theorem compactItems_eq_map (items : List Json) : compactItems items = items.map compact := by
  induction items with
  | nil => rfl
  | cons item items inductionHypothesis => rw [compactItems, inductionHypothesis, List.map_cons]

theorem compactMembers_eq_map (members : List (String × Json)) :
    compactMembers members =
      members.map fun member => renderString member.1 ++ ":" ++ compact member.2 := by
  induction members with
  | nil => rfl
  | cons member members inductionHypothesis =>
    rw [compactMembers, inductionHypothesis, List.map_cons]

/-- Parts between brackets with nothing but commas between them. -/
theorem enclose_tight (opening closing : Char) (parts : List String) :
    Spacing.tight.enclose opening closing (parts.map String.toList) =
      opening :: ((String.intercalate "," parts).toList ++ [closing]) := by
  cases parts with
  | nil => rfl
  | cons first others =>
    have separates : ",".toList = ',' :: Spacing.tight.before := rfl
    rw [Spacing.enclose, List.map_cons, Spacing.inside,
      Spacing.tight.append_inside closing separates]
    simp [Spacing.comma, Spacing.tight]

theorem toList_compact_array (items : List Json) :
    (compact (.array items)).toList =
      Spacing.tight.enclose '[' ']' (items.map fun item => item.compact.toList) := by
  have parts : (items.map fun item => item.compact.toList) =
      (items.map compact).map String.toList := by
    rw [List.map_map]
    rfl
  rw [parts, enclose_tight, compact, compactItems_eq_map]
  simp

theorem toList_compact_object (members : List (String × Json)) :
    (compact (.object members)).toList =
      Spacing.tight.enclose '{' '}' (members.map fun member =>
        (renderString member.1).toList ++
          ':' :: (Spacing.tight.gap ++ member.2.compact.toList)) := by
  have parts : (members.map fun member => (renderString member.1).toList ++
        ':' :: (Spacing.tight.gap ++ member.2.compact.toList)) =
      (members.map fun member => renderString member.1 ++ ":" ++ compact member.2).map
        String.toList := by
    rw [List.map_map]
    exact List.map_congr_left fun member _ => by simp [Spacing.tight]
  rw [parts, enclose_tight, compact, compactMembers_eq_map]
  simp

/-! ### With one part a line -/

theorem isSpace_of_mem_newLine {level : Nat} {c : Char} (member : c ∈ (newLine level).toList) :
    isSpace c := by
  simp only [newLine, String.toList_append, String.toList_ofList, List.mem_append] at member
  rcases member with feed | indentation
  · obtain rfl := List.mem_singleton.mp feed
    decide
  · rw [List.eq_of_mem_replicate indentation]
    decide

/-- The blanks between parts of which each has a line. -/
def Spacing.lines (level : Nat) : Spacing where
  before := (newLine (level + 1)).toList
  gap := [' ']
  after := (newLine level).toList
  before_blank := fun _ => isSpace_of_mem_newLine
  gap_blank := List.forall_mem_singleton.mpr rfl
  after_blank := fun _ => isSpace_of_mem_newLine

theorem toList_bracketed (level : Nat) (opening closing : Char) (parts : List String) :
    (bracketed level (String.ofList [opening]) (String.ofList [closing]) parts).toList =
      (Spacing.lines level).enclose opening closing (parts.map String.toList) := by
  cases parts with
  | nil => simp [bracketed, Spacing.enclose, Spacing.inside, Spacing.ending]
  | cons first others =>
    have separates : ("," ++ newLine (level + 1)).toList = ',' :: (Spacing.lines level).before := by
      simp [Spacing.lines]
    rw [Spacing.enclose, List.map_cons, Spacing.inside,
      (Spacing.lines level).append_inside closing separates]
    simp [bracketed, Spacing.comma, Spacing.lines]

theorem prettyAt_string (level : Nat) (text : String) :
    prettyAt level (.string text) = renderString text := by
  rw [prettyAt]

theorem prettyAt_bool (level : Nat) (isOn : Bool) :
    prettyAt level (.bool isOn) = if isOn then "true" else "false" := by
  cases isOn with
  | false => rw [prettyAt]; rfl
  | true => rw [prettyAt]; rfl

theorem prettyItems_eq_map (level : Nat) (items : List Json) :
    prettyItems level items = items.map (prettyAt level) := by
  induction items with
  | nil => rfl
  | cons item items inductionHypothesis => rw [prettyItems, inductionHypothesis, List.map_cons]

theorem prettyMembers_eq_map (level : Nat) (members : List (String × Json)) :
    prettyMembers level members =
      members.map fun member => renderString member.1 ++ ": " ++ prettyAt level member.2 := by
  induction members with
  | nil => rfl
  | cons member members inductionHypothesis =>
    rw [prettyMembers, inductionHypothesis, List.map_cons]

theorem toList_prettyAt_array (level : Nat) (items : List Json) :
    (prettyAt level (.array items)).toList =
      (Spacing.lines level).enclose '[' ']'
        (items.map fun item => (prettyAt (level + 1) item).toList) := by
  have bracketed := toList_bracketed level '[' ']' (prettyItems (level + 1) items)
  rw [prettyItems_eq_map, List.map_map] at bracketed
  rw [prettyAt, prettyItems_eq_map]
  exact bracketed

theorem toList_prettyAt_object (level : Nat) (members : List (String × Json)) :
    (prettyAt level (.object members)).toList =
      (Spacing.lines level).enclose '{' '}' (members.map fun member =>
        (renderString member.1).toList ++
          ':' :: ((Spacing.lines level).gap ++ (prettyAt (level + 1) member.2).toList)) := by
  have bracketed := toList_bracketed level '{' '}' (prettyMembers (level + 1) members)
  rw [prettyMembers_eq_map, List.map_map] at bracketed
  rw [prettyAt, prettyMembers_eq_map]
  refine bracketed.trans (congrArg _ (List.map_congr_left fun member _ => ?_))
  simp [Spacing.lines]

end Highlight.Json
