import TaskKernel.Environment
import TaskKernel.Proofs.Text.Numeral

/-!
What reading a variable comes to. A variable holds a text when its bytes are the text's, and a reading with a
fallback comes to what the text stands for, or to the fallback when there is no such thing. Integers are read by
exactly their grammar.
-/
namespace TaskKernel.Environment

open Text.Numeral (Reads Signs Counts Exact)

variable {α : Type} {environment : Environment} {name text : String} {value fallback : α}

theorem text?_eq_some_iff : environment.text? name = some text ↔ environment.bytes name = some text.toUTF8 := by
  unfold text?
  rw [Option.bind_eq_some_iff]
  constructor
  · rintro ⟨bytes, set, decoded⟩
    obtain ⟨valid, same⟩ := Option.dite_none_right_eq_some.mp decoded
    obtain rfl := Option.some.inj same
    exact set
  · intro set
    exact ⟨text.toUTF8, set, dif_pos text.isValidUTF8⟩

private theorem text?_setText (environment : Environment) (name text : String) :
    (environment.setText name text).text? name = some text :=
  text?_eq_some_iff.mpr (if_pos rfl)

private theorem parse?_setText (parser : String → Option α) (environment : Environment) (name text : String) :
    (environment.setText name text).parse? parser name = parser (Text.trim text) := by
  rw [parse?, text?_setText, Option.bind_some]

private theorem parse_setText (parser : String → Option α) (environment : Environment) (name text : String)
    (fallback : α) :
    (environment.setText name text).parse parser name fallback = (parser (Text.trim text)).getD fallback := by
  rw [parse, parse?_setText]

theorem text?_congr {other : Environment} (same : environment.bytes name = other.bytes name) :
    environment.text? name = other.text? name := by rw [text?, same, text?]

theorem parse_congr {other : Environment} {parser : String → Option α}
    (same : environment.text? name = other.text? name) :
    environment.parse parser name fallback = other.parse parser name fallback := by
  rw [parse, parse?, same, parse, parse?]

/-- What reading a variable comes to, where `reads` tells what a text stands for. -/
inductive Settles (environment : Environment) (name : String) (reads : String → α → Prop) (fallback : α) :
    α → Prop
  | read (text : String) (value : α) (set : environment.bytes name = some text.toUTF8) (stands : reads text value) :
      Settles environment name reads fallback value
  | unset (absent : environment.bytes name = none) : Settles environment name reads fallback fallback
  | undecodable (bytes : ByteArray) (set : environment.bytes name = some bytes)
      (textless : ∀ text : String, bytes ≠ text.toUTF8) : Settles environment name reads fallback fallback
  | unreadable (text : String) (set : environment.bytes name = some text.toUTF8)
      (meaningless : ∀ value, ¬ reads text value) : Settles environment name reads fallback fallback

theorem getD_bind_eq_iff {find : String → Option α} {reads : String → α → Prop}
    (finds : ∀ text value, find text = some value ↔ reads text value) :
    ((environment.text? name).bind find).getD fallback = value ↔
      environment.Settles name reads fallback value := by
  constructor
  · rintro rfl
    cases set : environment.text? name with
    | none =>
      have textless : ∀ text : String, environment.bytes name ≠ some text.toUTF8 := by
        intro text held
        rw [text?_eq_some_iff.mpr held] at set
        cases set
      cases held : environment.bytes name with
      | none => exact .unset held
      | some bytes => exact .undecodable bytes held fun text same => textless text (same ▸ held)
    | some text =>
      have held := text?_eq_some_iff.mp set
      rw [Option.bind_some]
      cases found : find text with
      | none =>
        refine .unreadable text held fun value stands => ?_
        rw [(finds text value).mpr stands] at found
        cases found
      | some value => exact .read text value held ((finds text value).mp found)
  · rintro (⟨text, value, held, stands⟩ | absent | ⟨bytes, held, textless⟩ | ⟨text, held, meaningless⟩)
    · rw [text?_eq_some_iff.mpr held, Option.bind_some, (finds text value).mpr stands, Option.getD_some]
    · rw [text?, absent]
      rfl
    · have undecoded : environment.text? name = none := by
        refine Option.eq_none_iff_forall_ne_some.mpr fun text set => textless text ?_
        exact Option.some.inj (held.symm.trans (text?_eq_some_iff.mp set))
      rw [undecoded]
      rfl
    · have unfound : find text = none :=
        Option.eq_none_iff_forall_ne_some.mpr fun value found => meaningless value ((finds text value).mp found)
      rw [text?_eq_some_iff.mpr held, Option.bind_some, unfound, Option.getD_none]

theorem parse_eq_iff {parser : String → Option α} {reads : String → α → Prop}
    (finds : ∀ text value, parser (Text.trim text) = some value ↔ reads text value) :
    environment.parse parser name fallback = value ↔ environment.Settles name reads fallback value :=
  getD_bind_eq_iff finds

/-- How a parser reads a variable as an integer of a type. -/
structure ReadsIntegers (parser : String → Option α) (toInt : α → Int) (signed : Bool) (low high : Int) : Prop where
  range : ∀ number, (∃ value, toInt value = number) ↔ low ≤ number ∧ number ≤ high
  found : ∀ (environment : Environment) name text value, (environment.setText name text).parse? parser name =
    some value ↔ Reads signed low high text (toInt value)
  missed : ∀ (environment : Environment) name text, (environment.setText name text).parse? parser name = none ↔
    ∀ number, ¬ Reads signed low high text number
  rendered : ∀ (environment : Environment) name value before sign zeros after,
    (∀ char ∈ before, Text.isBlank char = true) → Signs signed (toInt value) sign →
    (∀ char ∈ after, Text.isBlank char = true) →
    (environment.setText name (String.ofList (before ++ ((sign ++ (List.replicate zeros '0' ++
      Nat.toDigits 10 (toInt value).natAbs)) ++ after)))).parse? parser name = some value
  kept : ∀ (environment : Environment) name text value fallback, Reads signed low high text (toInt value) →
    (environment.setText name text).parse parser name fallback = value
  defaulted : ∀ (environment : Environment) name text,
    (∀ fallback, (environment.setText name text).parse parser name fallback = fallback) ↔
      ∀ number, ¬ Reads signed low high text number

private theorem readsIntegers {parser : String → Option α} {toInt : α → Int} {signed : Bool} {low high : Int}
    (exact : Exact parser toInt signed low high) (wide : low < high) :
    ReadsIntegers parser toInt signed low high where
  range number := by
    constructor
    · rintro ⟨value, rfl⟩
      exact exact.inside value
    · exact fun ⟨least, most⟩ => exact.onto number least most
  found environment name text value := by rw [parse?_setText, exact.trim_eq_some_iff]
  missed environment name text := by rw [parse?_setText, exact.trim_eq_none_iff]
  rendered environment name value before sign zeros after blankBefore signs blankAfter := by
    have spells : Text.Numeral.Spells signed (sign ++ _) (toInt value) :=
      ⟨sign, _, rfl, signs, Text.Numeral.counts_toDigits zeros (toInt value).natAbs⟩
    rw [parse?_setText, exact.trim_eq_some_iff]
    refine ⟨_, ?_, spells, exact.inside value⟩
    rw [String.toList_ofList]
    exact spells.stripped blankBefore blankAfter
  kept environment name text value fallback reads := by
    rw [parse_setText, exact.trim_eq_some_iff.mpr reads, Option.getD_some]
  defaulted environment name text := by
    rw [← exact.trim_eq_none_iff]
    constructor
    · intro free
      -- A value that was found would be the fallback whatever that is, but there are two of them.
      obtain ⟨least, lowest⟩ := exact.onto low (Int.le_refl low) (Int.le_of_lt wide)
      obtain ⟨most, highest⟩ := exact.onto high (Int.le_of_lt wide) (Int.le_refl high)
      cases found : parser (Text.trim text) with
      | none => rfl
      | some value =>
        have always : ∀ fallback, value = fallback := by
          intro fallback
          have same := free fallback
          rwa [parse_setText, found, Option.getD_some] at same
        have equal := congrArg toInt ((always least).symm.trans (always most))
        omega
    · intro missed fallback
      rw [parse_setText, missed, Option.getD_none]

/-- The integers of a variable are read by their grammar: words of 32 and of 64 bits, which are also the sizes, and
signed words. -/
theorem every_integer_read_exactly :
    ReadsIntegers Text.Numeral.word32? (fun word => word.toNat) false 0 (2 ^ 32 - 1) ∧
    ReadsIntegers Text.Numeral.word64? (fun word => word.toNat) false 0 (2 ^ 64 - 1) ∧
    ReadsIntegers Text.Numeral.signed64? Int64.toInt true (-2 ^ 63) (2 ^ 63 - 1) :=
  ⟨readsIntegers Text.Numeral.word32?_exact (by decide), readsIntegers Text.Numeral.word64?_exact (by decide),
    readsIntegers Text.Numeral.signed64?_exact (by decide)⟩

/-- The end of the range, one beyond it, a sign alone, a blank inside and digits of another script. -/
example : ["-009223372036854775808", "-9223372036854775809", "-", "+ 1", "١٢"].map Text.Numeral.signed64? =
    [some Int64.minValue, none, none, none, none] := by
  decide +kernel

end TaskKernel.Environment
