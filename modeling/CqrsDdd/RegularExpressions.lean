import Mathlib.Data.List.Forall2

/-! Patterns over an alphabet, made of places for one symbol and places for any number of
them, and the regular expressions that spell such patterns: literal and escaped
characters, the dot and the dot with a star, between anchors. -/
namespace CqrsDdd.RegularExpressions

/-- One symbol, or any number of symbols, that the predicate admits. -/
inductive Place (Symbol : Type)
  | one (admits : Symbol → Bool)
  | many (admits : Symbol → Bool)

section Places

variable {Symbol : Type}

/-- Some admitted symbols, and then the rest. -/
def skipping (admits : Symbol → Bool) (rest : List Symbol → Bool) : List Symbol → Bool
  | [] => rest []
  | symbol::symbols => rest (symbol::symbols) || (admits symbol && skipping admits rest symbols)

/-- Whether the places take up the whole word. -/
def accepts : List (Place Symbol) → List Symbol → Bool
  | [],symbols => symbols.isEmpty
  | .one admits::rest,symbols =>
    match symbols with
    | [] => false
    | symbol::symbols => admits symbol && accepts rest symbols
  | .many admits::rest,symbols => skipping admits (accepts rest) symbols

/-- Two places of one kind that admit the same symbols of a word. -/
def AlikeOn (symbols : List Symbol) : Place Symbol → Place Symbol → Prop
  | .one admits,.one others | .many admits,.many others => ∀ symbol ∈ symbols, admits symbol = others symbol
  | _,_ => False

theorem skipping_congr {admits others : Symbol → Bool} {first second : List Symbol → Bool} {symbols : List Symbol}
    (same : ∀ symbol ∈ symbols, admits symbol = others symbol)
    (rest : ∀ suffix, suffix <:+ symbols → first suffix = second suffix) :
    skipping admits first symbols = skipping others second symbols := by
  induction symbols with
  | nil => exact rest [] List.suffix_rfl
  | cons symbol symbols ih =>
    have later := ih (fun symbol member => same symbol (List.mem_cons_of_mem _ member))
      fun suffix behind => rest suffix (behind.trans (List.suffix_cons symbol symbols))
    rw [skipping,skipping,same symbol List.mem_cons_self,rest _ List.suffix_rfl,later]

/-- Patterns that differ only in symbols which a word does not have accept it alike. -/
theorem accepts_congr {places others : List (Place Symbol)} {symbols : List Symbol}
    (alike : List.Forall₂ (AlikeOn symbols) places others) {suffix : List Symbol} (behind : suffix <:+ symbols) :
    accepts places suffix = accepts others suffix := by
  induction alike generalizing suffix with
  | nil => exact rfl
  | @cons place other places others first _ ih =>
    cases place with
    | one admits =>
      cases other with
      | one admitted =>
        cases suffix with
        | nil => exact rfl
        | cons symbol rest =>
          have same : admits symbol = admitted symbol := first symbol (behind.subset List.mem_cons_self)
          rw [accepts,accepts,same,ih ((List.suffix_cons symbol rest).trans behind)]
      | many _ => exact first.elim
    | many admits =>
      cases other with
      | one _ => exact first.elim
      | many admitted =>
        exact skipping_congr (fun symbol member => first symbol (behind.subset member))
          fun later after => ih (after.trans behind)

theorem accepts_word [DecidableEq Symbol] (word symbols : List Symbol) :
    accepts (word.map fun letter => .one fun symbol => symbol = letter) symbols = decide (symbols = word) := by
  induction word generalizing symbols with
  | nil => cases symbols <;> rfl
  | cons letter rest ih =>
    cases symbols with
    | nil => exact rfl
    | cons symbol others =>
      rw [List.map_cons,accepts,ih]
      simp [List.cons.injEq]

theorem accepts_word_append [DecidableEq Symbol] {word : List Symbol} {places : List (Place Symbol)} {symbols : List Symbol} :
    accepts ((word.map fun letter => .one fun symbol => symbol = letter) ++ places) symbols = true ↔
      ∃ rest, word ++ rest = symbols ∧ accepts places rest = true := by
  induction word generalizing symbols with
  | nil => exact ⟨fun accepted => ⟨symbols,rfl,accepted⟩,fun ⟨_,same,accepted⟩ => same ▸ accepted⟩
  | cons letter word ih =>
    cases symbols with
    | nil => exact iff_of_false Bool.false_ne_true fun ⟨_,same,_⟩ => (by cases same)
    | cons symbol others =>
      rw [List.map_cons,List.cons_append,accepts,Bool.and_eq_true,decide_eq_true_iff,ih]
      constructor
      · rintro ⟨rfl,rest,rfl,accepted⟩
        exact ⟨rest,rfl,accepted⟩
      · rintro ⟨rest,same,accepted⟩
        obtain ⟨rfl,behind⟩ := List.cons.inj same
        exact ⟨rfl,rest,behind,accepted⟩

theorem accepts_any {places : List (Place Symbol)} {symbols : List Symbol} :
    accepts (.many (fun _ => true) :: places) symbols = true ↔ ∃ rest, rest <:+ symbols ∧ accepts places rest = true := by
  rw [accepts]
  induction symbols with
  | nil =>
    constructor
    · exact fun accepted => ⟨[],List.suffix_rfl,accepted⟩
    · rintro ⟨rest,behind,accepted⟩
      obtain rfl := List.suffix_nil.mp behind
      exact accepted
  | cons symbol symbols ih =>
    rw [skipping,Bool.true_and,Bool.or_eq_true,ih]
    constructor
    · rintro (here | ⟨rest,behind,accepted⟩)
      · exact ⟨symbol::symbols,List.suffix_rfl,here⟩
      · exact ⟨rest,behind.trans (List.suffix_cons symbol symbols),accepted⟩
    · rintro ⟨rest,behind,accepted⟩
      rcases List.suffix_cons_iff.mp behind with rfl | later
      · exact .inl accepted
      · exact .inr ⟨rest,later,accepted⟩

end Places

inductive Token
  | literal (char : Char)
  | escaped (char : Char)
  | any
  | anyMany
  deriving DecidableEq, Repr

namespace Token

/-- The characters that say something else than themselves, outside of brackets and braces. -/
def special : List Char := ['\\','.','^','$','*','+','?','\x7b','[','|','(',')','\x00']

def text : Token → List Char
  | .literal char => [char]
  | .escaped char => ['\\',char]
  | .any => ['.']
  | .anyMany => ['.','*']

/-- The dot admits every character but the newline. -/
def place : Token → Place Char
  | .literal char | .escaped char => .one fun symbol => symbol = char
  | .any => .one fun symbol => symbol ≠ '\n'
  | .anyMany => .many fun symbol => symbol ≠ '\n'

def WellFormed : Token → Prop
  | .literal char => char ∉ special
  | .escaped char => char.isAlphanum = false ∧ char ≠ '\x00'
  | .any | .anyMany => True

end Token

def spell (tokens : List Token) : String := "^" ++ String.ofList (tokens.flatMap Token.text) ++ "$"

/-- The dollar stands at the end of the text, or before a newline there. -/
def matched (tokens : List Token) (text : List Char) : Bool :=
  accepts (tokens.map Token.place) text ||
    (text.getLast? = some '\n' && accepts (tokens.map Token.place) text.dropLast)

/-- What the documentation of an engine says of the expressions that are spelled here. -/
def Documented {Failure : Type} (engine : String → String → Except Failure Bool) : Prop :=
  ∀ tokens, (∀ token ∈ tokens, Token.WellFormed token) → ∀ text,
    engine (spell tokens) text = .ok (matched tokens text.toList)

section Fragment

def parse : List Char → List Token
  | [] => []
  | '\\'::char::rest => .escaped char::parse rest
  | '.':: '*'::rest => .anyMany::parse rest
  | '.'::rest => .any::parse rest
  | char::rest => .literal char::parse rest

/-- An engine for the expressions that are spelled here. -/
def fragment {Failure : Type} (regex text : String) : Except Failure Bool :=
  .ok (matched (parse (regex.toList.drop 1).dropLast) text.toList)

theorem text_head {tokens : List Token} (formed : ∀ token ∈ tokens, Token.WellFormed token) (rest : List Char) :
    tokens.flatMap Token.text ≠ '*'::rest := by
  intro same
  cases tokens with
  | nil => cases same
  | cons token others =>
    have first := formed token List.mem_cons_self
    rw [List.flatMap_cons] at same
    cases token with
    | literal char =>
      obtain ⟨rfl,_⟩ := List.cons.inj same
      exact first (by decide)
    | escaped _ | any | anyMany => cases same

theorem parse_text {tokens : List Token} (formed : ∀ token ∈ tokens, Token.WellFormed token) :
    parse (tokens.flatMap Token.text) = tokens := by
  induction tokens with
  | nil => exact rfl
  | cons token rest ih =>
    have first := formed token List.mem_cons_self
    have others := fun token member => formed token (List.mem_cons_of_mem _ member)
    have next := ih others
    have apart := text_head others
    rw [List.flatMap_cons]
    generalize rest.flatMap Token.text = spelled at next apart
    cases token with
    | literal char =>
      have backslash : char ≠ '\\' := fun same => first (same ▸ by decide)
      have dot : char ≠ '.' := fun same => first (same ▸ by decide)
      change parse (char::spelled) = _
      rw [parse,next]
      · exact fun _ _ same => (backslash same).elim
      · exact fun _ same => (dot same).elim
      · exact dot
    | escaped char =>
      change parse ('\\'::char::spelled) = _
      rw [parse,next]
    | any =>
      change parse ('.'::spelled) = _
      rw [parse,next]
      exact apart
    | anyMany =>
      change parse ('.':: '*'::spelled) = _
      rw [parse,next]

theorem fragment_documented {Failure : Type} : Documented (@fragment Failure) := by
  intro tokens formed text
  have body : ((spell tokens).toList.drop 1).dropLast = tokens.flatMap Token.text := by
    simp [spell]
  rw [fragment,body,parse_text formed]

end Fragment

end CqrsDdd.RegularExpressions
