import Mathlib.Data.List.Chain
import Highlight.Json.Strings
import Highlight.Proofs.Spelling

/-!
The grammar of JSON: which texts are the lexical tokens, and in which order tokens make up a value.
A document is its tokens, each with the blanks before it, and the blanks at the end.
-/

set_option autoImplicit false

namespace Highlight.Json

open Cursor (isSpace isControl shortEscape?)
open Text (isHexDigit forall_mem_of_all)

/-! ## Lexical tokens -/

/-- What a lexical token is for. -/
inductive Role where
  | listOpens
  | listCloses
  | objectOpens
  | objectCloses
  | comma
  | colon
  | null
  | boolean
  | numeral
  /-- A string literal that names a member. -/
  | name
  /-- A string literal that is a value. -/
  | string
  deriving DecidableEq, Repr

def IsDigits (text : List Char) : Prop :=
  text ≠ [] ∧ ∀ c ∈ text, c.isDigit

/-- Digits, of which the first is no zero unless it is the only one. -/
def IsInteger (text : List Char) : Prop :=
  IsDigits text ∧ (text.head? = some '0' → text = ['0'])

inductive IsFraction : List Char → Prop
  | missing : IsFraction []
  | present {digits : List Char} : IsDigits digits → IsFraction ('.' :: digits)

inductive IsExponent : List Char → Prop
  | missing : IsExponent []
  | present {mark : Char} {sign digits : List Char} : mark = 'e' ∨ mark = 'E' →
      sign = [] ∨ sign = ['+'] ∨ sign = ['-'] → IsDigits digits →
      IsExponent (mark :: (sign ++ digits))

inductive IsNumeral : List Char → Prop
  | parts {sign integer fraction exponent : List Char} : sign = [] ∨ sign = ['-'] →
      IsInteger integer → IsFraction fraction → IsExponent exponent →
      IsNumeral (sign ++ (integer ++ (fraction ++ exponent)))

/-- What may stand between the quotes of a string literal. -/
inductive IsStringBody : List Char → Prop
  | empty : IsStringBody []
  | character {c : Char} {rest : List Char} : c ≠ '\"' → c ≠ '\\' → isControl c = false →
      IsStringBody rest → IsStringBody (c :: rest)
  | escape {letter : Char} {rest : List Char} : (shortEscape? letter).isSome →
      IsStringBody rest → IsStringBody ('\\' :: letter :: rest)
  | codeUnit {a b c d : Char} {rest : List Char} : (∀ digit ∈ [a, b, c, d], isHexDigit digit) →
      IsStringBody rest → IsStringBody ('\\' :: 'u' :: a :: b :: c :: d :: rest)

inductive IsString : List Char → Prop
  | quoted {body : List Char} : IsStringBody body → IsString ('\"' :: (body ++ ['\"']))

/-- Is the text one of a role? -/
def Role.Spells : Role → List Char → Prop
  | listOpens, text => text = ['[']
  | listCloses, text => text = [']']
  | objectOpens, text => text = ['{']
  | objectCloses, text => text = ['}']
  | comma, text => text = [',']
  | colon, text => text = [':']
  | null, text => text = "null".toList
  | boolean, text => text = "true".toList ∨ text = "false".toList
  | numeral, text => IsNumeral text
  | name, text => IsString text
  | string, text => IsString text

/-- A token of a document, with the blanks before it. -/
structure LexicalToken where
  role : Role
  blanks : List Char
  text : List Char
  deriving DecidableEq, Repr

structure LexicalToken.WellFormed (token : LexicalToken) : Prop where
  blank : ∀ c ∈ token.blanks, isSpace c
  spells : token.role.Spells token.text

def written (tokens : List LexicalToken) : List Char :=
  tokens.flatMap fun token => token.blanks ++ token.text

@[simp] theorem written_nil : written [] = [] := rfl

@[simp] theorem written_cons (token : LexicalToken) (tokens : List LexicalToken) :
    written (token :: tokens) = token.blanks ++ (token.text ++ written tokens) := by
  simp [written]

@[simp] theorem written_append (first second : List LexicalToken) :
    written (first ++ second) = written first ++ written second := by
  simp [written]

theorem IsNumeral.exists_cons {text : List Char} (numeral : IsNumeral text) :
    ∃ c rest, text = c :: rest ∧ (c = '-' ∨ c.isDigit) := by
  obtain ⟨signs, integers, fractions, exponents⟩ := numeral
  rcases signs with rfl | rfl
  · obtain ⟨c, digits, rfl⟩ := List.exists_cons_of_ne_nil integers.1.1
    exact ⟨c, _, rfl, .inr (integers.1.2 c (by simp))⟩
  · exact ⟨'-', _, rfl, .inl rfl⟩

theorem Role.Spells.ne_nil {role : Role} {text : List Char} (spells : role.Spells text) :
    text ≠ [] := by
  cases role with
  | listOpens | listCloses | objectOpens | objectCloses | comma | colon | null =>
    obtain rfl := spells
    decide
  | boolean => rcases spells with rfl | rfl <;> decide
  | numeral =>
    obtain ⟨c, rest, rfl, -⟩ := IsNumeral.exists_cons spells
    simp
  | name | string =>
    obtain ⟨body⟩ := spells
    simp

/-! ## Characters of tokens -/

theorem isControl_of_le {c : Char} (bound : 0x20 ≤ c.toNat) : isControl c = false := by
  simpa [isControl] using bound

theorem isControl_of_isDigit {c : Char} (digit : c.isDigit) : isControl c = false := by
  have bounds : c.val ≥ 48 ∧ c.val ≤ 57 := by simpa [Char.isDigit] using digit
  have bound : 48 ≤ c.val.toNat := UInt32.le_iff_toNat_le.mp bounds.1
  exact isControl_of_le (Nat.le_trans (by decide) bound)

/-- Hexadecimal digits stand for themselves in a string. -/
theorem plain_of_isHexDigit {c : Char} (digit : isHexDigit c) :
    c ≠ '\"' ∧ c ≠ '\\' ∧ isControl c = false := by
  refine ⟨?_, ?_, ?_⟩
  · rintro rfl
    exact absurd digit (by decide)
  · rintro rfl
    exact absurd digit (by decide)
  · simp only [isHexDigit, Bool.or_eq_true, Bool.and_eq_true, decide_eq_true_eq] at digit
    obtain (isDigit | ⟨low, -⟩) | ⟨low, -⟩ := digit
    · exact isControl_of_isDigit isDigit
    · have bound : 'a'.toNat ≤ c.toNat := UInt32.le_iff_toNat_le.mp low
      exact isControl_of_le (Nat.le_trans (by decide) bound)
    · have bound : 'A'.toNat ≤ c.toNat := UInt32.le_iff_toNat_le.mp low
      exact isControl_of_le (Nat.le_trans (by decide) bound)

theorem IsDigits.uncontrolled {text : List Char} (digits : IsDigits text) :
    ∀ c ∈ text, isControl c = false :=
  fun c member => isControl_of_isDigit (digits.2 c member)

theorem IsNumeral.uncontrolled {text : List Char} (numeral : IsNumeral text) :
    ∀ c ∈ text, isControl c = false := by
  obtain ⟨signs, integers, fractions, exponents⟩ := numeral
  simp only [List.forall_mem_append]
  refine ⟨?_, integers.1.uncontrolled, ?_, ?_⟩
  · rcases signs with rfl | rfl <;> exact forall_mem_of_all rfl
  · cases fractions with
    | missing => simp
    | present digits => exact List.forall_mem_cons.mpr ⟨by decide, digits.uncontrolled⟩
  · cases exponents with
    | missing => simp
    | present mark signs digits =>
      refine List.forall_mem_cons.mpr ⟨?_, List.forall_mem_append.mpr ⟨?_, digits.uncontrolled⟩⟩
      · rcases mark with rfl | rfl <;> decide
      · rcases signs with rfl | rfl | rfl <;> exact forall_mem_of_all rfl

theorem IsStringBody.uncontrolled {text : List Char} (body : IsStringBody text) :
    ∀ c ∈ text, isControl c = false := by
  induction body with
  | empty => simp
  | character _ _ own _ inductionHypothesis =>
    exact List.forall_mem_cons.mpr ⟨own, inductionHypothesis⟩
  | @escape letter _ short _ inductionHypothesis =>
    have own : isControl letter = false := by
      unfold shortEscape? at short
      split at short <;> first | decide | contradiction
    exact List.forall_mem_cons.mpr
      ⟨by decide, List.forall_mem_cons.mpr ⟨own, inductionHypothesis⟩⟩
  | @codeUnit a b c d _ digits _ inductionHypothesis =>
    have own : ∀ digit ∈ [a, b, c, d], isControl digit = false :=
      fun digit member => (plain_of_isHexDigit (digits digit member)).2.2
    have all := List.forall_mem_append.mpr ⟨own, inductionHypothesis⟩
    exact List.forall_mem_cons.mpr ⟨by decide, List.forall_mem_cons.mpr ⟨by decide, all⟩⟩

/-- No token contains a control character, so each stands on one line. -/
theorem Role.Spells.uncontrolled {role : Role} {text : List Char} (spells : role.Spells text) :
    ∀ c ∈ text, isControl c = false := by
  cases role with
  | listOpens | listCloses | objectOpens | objectCloses | comma | colon | null =>
    obtain rfl := spells
    exact forall_mem_of_all rfl
  | boolean => rcases spells with rfl | rfl <;> exact forall_mem_of_all rfl
  | numeral => exact IsNumeral.uncontrolled spells
  | name | string =>
    obtain ⟨body⟩ := spells
    exact List.forall_mem_cons.mpr
      ⟨by decide, List.forall_mem_append.mpr ⟨body.uncontrolled, forall_mem_of_all rfl⟩⟩

/-! ## Syntax -/

/-- What roles can make up. -/
inductive Phrase where
  | value
  | member
  /-- One or more of something, with commas between. -/
  | several (part : Phrase)

inductive Derives : Phrase → List Role → Prop
  | null : Derives .value [.null]
  | boolean : Derives .value [.boolean]
  | numeral : Derives .value [.numeral]
  | string : Derives .value [.string]
  | emptyList : Derives .value [.listOpens, .listCloses]
  | list {items : List Role} : Derives (.several .value) items →
      Derives .value (.listOpens :: (items ++ [.listCloses]))
  | emptyObject : Derives .value [.objectOpens, .objectCloses]
  | object {members : List Role} : Derives (.several .member) members →
      Derives .value (.objectOpens :: (members ++ [.objectCloses]))
  | member {value : List Role} : Derives .value value → Derives .member (.name :: .colon :: value)
  | one {part : Phrase} {roles : List Role} : Derives part roles → Derives (.several part) roles
  | more {part : Phrase} {roles others : List Role} : Derives part roles →
      Derives (.several part) others → Derives (.several part) (roles ++ .comma :: others)

/-- Tokens that make up a text as one value with blanks around and between them. -/
structure IsDocument (tokens : List LexicalToken) (text : List Char) : Prop where
  derives : Derives .value (tokens.map (·.role))
  wellFormed : ∀ token ∈ tokens, token.WellFormed
  spells : ∃ trailing, (∀ c ∈ trailing, isSpace c) ∧ text = written tokens ++ trailing

/-! ## Neighbors -/

/-- Does a value end with such a token? -/
def Role.endsValue : Role → Bool
  | null | boolean | numeral | string | listCloses | objectCloses => true
  | listOpens | objectOpens | comma | colon | name => false

/-- Does such a token follow a value? -/
def Role.followsValue : Role → Bool
  | comma | listCloses | objectCloses => true
  | _ => false

/-- May one token be followed by another? -/
structure Role.Precedes (first second : Role) : Prop where
  afterValue : first.endsValue → second.followsValue
  afterName : first = .name → second = .colon

theorem Role.precedes_of_opens {first : Role} (opens : first.endsValue = false)
    (unnamed : first ≠ .name) (second : Role) : first.Precedes second where
  afterValue ends := by simp [opens] at ends
  afterName isName := absurd isName unnamed

theorem Role.precedes_of_endsValue {first second : Role} (ends : first.endsValue)
    (follows : second.followsValue) : first.Precedes second where
  afterValue _ := follows
  afterName isName := by simp [isName, endsValue] at ends

/-- Tokens whose neighbors fit, and of which the last ends a value. -/
structure Fits (roles : List Role) : Prop where
  chain : roles.IsChain Role.Precedes
  ends : ∃ last ∈ roles.getLast?, last.endsValue

namespace Fits

theorem singleton {role : Role} (ends : role.endsValue) : Fits [role] :=
  ⟨List.isChain_singleton _, role, rfl, ends⟩

/-- Anything but a value's end and a name can be put before tokens that fit. -/
theorem cons {roles : List Role} (fits : Fits roles) {first : Role}
    (opens : first.endsValue = false) (unnamed : first ≠ .name) : Fits (first :: roles) where
  chain := List.isChain_cons.mpr
    ⟨fun next _ => Role.precedes_of_opens opens unnamed next, fits.chain⟩
  ends := by
    obtain ⟨last, isLast, ends⟩ := fits.ends
    exact ⟨last, by simp [List.getLast?_cons, Option.mem_def.mp isLast], ends⟩

/-- What follows a value can be put behind tokens that fit. -/
theorem append {roles others : List Role} (fits : Fits roles) {next : Role}
    (follows : next.followsValue) (further : Fits (next :: others)) :
    Fits (roles ++ next :: others) where
  chain := by
    refine List.isChain_append.mpr ⟨fits.chain, further.chain, ?_⟩
    intro own isOwn other isOther
    obtain ⟨last, isLast, ends⟩ := fits.ends
    obtain rfl : last = own := Option.some.inj (isLast.symm.trans isOwn)
    obtain rfl : next = other := by simpa using isOther
    exact Role.precedes_of_endsValue ends follows
  ends := by
    obtain ⟨last, isLast, ends⟩ := further.ends
    exact ⟨last, by simp [List.getLast?_append, Option.mem_def.mp isLast], ends⟩

end Fits

theorem Derives.fits {phrase : Phrase} {roles : List Role} (derives : Derives phrase roles) :
    Fits roles := by
  induction derives with
  | null | boolean | numeral | string => exact .singleton rfl
  | emptyList | emptyObject => exact .cons (.singleton rfl) rfl (by decide)
  | list _ inductionHypothesis | object _ inductionHypothesis =>
    exact .cons (.append inductionHypothesis rfl (.singleton rfl)) rfl (by decide)
  | member _ inductionHypothesis =>
    have afterName : Fits (.colon :: _) := .cons inductionHypothesis rfl (by decide)
    obtain ⟨last, isLast, ends⟩ := afterName.ends
    exact ⟨List.isChain_cons_cons.mpr ⟨⟨by decide, fun _ => rfl⟩, afterName.chain⟩,
      last, by simpa [List.getLast?_cons] using isLast, ends⟩
  | one _ inductionHypothesis => exact inductionHypothesis
  | more _ _ own following => exact .append own rfl (.cons following rfl (by decide))

end Highlight.Json
