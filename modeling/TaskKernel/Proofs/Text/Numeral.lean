import Mathlib.Data.List.DropRight
import Mathlib.Data.Nat.Digits.Defs
import TaskKernel.Text.Numeral

/-!
What is left of a text without the blanks at its ends, and which texts are numerals. A numeral is a sign and a row
of digits with the exact decimal value of its number; a parser accepts the numerals inside its range and nothing
else.
-/
namespace TaskKernel.Text

/-- A text without the blanks at its two ends. -/
structure Stripped (text core : List Char) : Prop where
  around : ∃ before after, text = before ++ (core ++ after) ∧ (∀ char ∈ before, isBlank char = true) ∧
    ∀ char ∈ after, isBlank char = true
  first : ∀ char ∈ core.head?, isBlank char = false
  last : ∀ char ∈ core.getLast?, isBlank char = false

private theorem dropWhile_blanks {before rest : List Char} (blank : ∀ char ∈ before, isBlank char = true)
    (first : ∀ char ∈ rest.head?, isBlank char = false) : (before ++ rest).dropWhile isBlank = rest := by
  rw [List.dropWhile_append_of_pos blank]
  cases rest with
  | nil => rfl
  | cons head tail => exact List.dropWhile_cons_of_neg (Bool.eq_false_iff.mp (first head rfl))

theorem trimmed_stripped (text : List Char) : Stripped text (trimmed text) := by
  have start : text.takeWhile isBlank ++ text.dropWhile isBlank = text := List.takeWhile_append_dropWhile
  have unblank := List.head?_dropWhile_not isBlank text
  rw [show trimmed text = (text.dropWhile isBlank).rdropWhile isBlank from rfl]
  generalize text.dropWhile isBlank = rest at start unblank
  have finish : rest.rdropWhile isBlank ++ rest.rtakeWhile isBlank = rest := by
    rw [List.rdropWhile, List.rtakeWhile, ← List.reverse_append, List.takeWhile_append_dropWhile,
      List.reverse_reverse]
  refine ⟨⟨text.takeWhile isBlank, rest.rtakeWhile isBlank, ?_, ?_, ?_⟩, ?_, ?_⟩
  · rw [finish, start]
  · exact fun char member => List.mem_takeWhile_imp member
  · exact fun char member => List.mem_rtakeWhile_imp member
  · intro char head
    have same : rest.head? = some char := by
      rw [← finish, List.head?_append, Option.mem_def.mp head, Option.some_or]
    rwa [same] at unblank
  · intro char final
    obtain ⟨some, rfl⟩ := List.mem_getLast?_eq_getLast final
    exact Bool.eq_false_iff.mpr (List.rdropWhile_last_not isBlank rest some)

theorem Stripped.trimmed_eq {text core : List Char} (stripped : Stripped text core) : trimmed text = core := by
  obtain ⟨⟨before, after, rfl, blankBefore, blankAfter⟩, first, last⟩ := stripped
  have blankReversed : ∀ char ∈ after.reverse, isBlank char = true :=
    fun char member => blankAfter char (List.mem_reverse.mp member)
  unfold trimmed
  cases core with
  | nil =>
    have all : ∀ char ∈ before ++ ([] ++ after), isBlank char = true := by
      intro char member
      exact (List.mem_append.mp member).elim (blankBefore char) (blankAfter char)
    rw [List.dropWhile_eq_nil_iff.mpr all]
    rfl
  | cons head tail =>
    have lastFirst : ∀ char ∈ (head :: tail).reverse.head?, isBlank char = false := by
      rwa [List.head?_reverse]
    have opening : ∀ char ∈ (head :: tail ++ after).head?, isBlank char = false := first
    rw [dropWhile_blanks blankBefore opening, List.reverse_append, dropWhile_blanks blankReversed lastFirst,
      List.reverse_reverse]

namespace Numeral

/-- One or more ASCII digits, with their exact decimal value. -/
structure Counts (digits : List Char) (size : Nat) : Prop where
  some : digits ≠ []
  ascii : ∀ digit ∈ digits, digit.isDigit = true
  exact : Nat.ofDigits 10 (digits.reverse.map fun digit => digit.toNat - '0'.toNat) = size

private theorem value_eq_ofDigits (digits : List Char) :
    value digits = Nat.ofDigits 10 (digits.reverse.map fun digit => digit.toNat - '0'.toNat) := by
  induction digits using List.reverseRecOn with
  | nil => rfl
  | append_singleton digits last ih =>
    rw [value, List.foldl_concat, ← value, ih, List.reverse_concat, List.map_cons, Nat.ofDigits_cons]
    omega

theorem natural?_eq_some_iff {chars : List Char} {size : Nat} : natural? chars = some size ↔ Counts chars size := by
  unfold natural?
  constructor
  · intro found
    obtain ⟨⟨some, ascii⟩, same⟩ := Option.ite_none_right_eq_some.mp found
    exact ⟨some, List.all_eq_true.mp ascii, (value_eq_ofDigits chars).symm.trans (Option.some.inj same)⟩
  · rintro ⟨some, ascii, exact⟩
    rw [if_pos ⟨some, List.all_eq_true.mpr ascii⟩, value_eq_ofDigits, exact]

private theorem value_eq_ofDigitChars (digits : List Char) : value digits = Nat.ofDigitChars 10 digits 0 := by
  simp only [value, Nat.ofDigitChars_eq_foldl, Nat.mul_comm]

private theorem ofDigitChars_zeros (zeros : Nat) : Nat.ofDigitChars 10 (List.replicate zeros '0') 0 = 0 := by
  induction zeros with
  | zero => rfl
  | succ zeros ih => exact ih

/-- The usual digits of a number count it, and so they do behind any number of zeros. -/
theorem counts_toDigits (zeros size : Nat) : Counts (List.replicate zeros '0' ++ Nat.toDigits 10 size) size := by
  refine ⟨List.append_ne_nil_of_right_ne_nil _ Nat.toDigits_ne_nil, ?_, ?_⟩
  · intro digit member
    rcases List.mem_append.mp member with zero | proper
    · rw [List.eq_of_mem_replicate zero]
      rfl
    · exact Nat.isDigit_of_mem_toDigits (by decide) (by decide) proper
  · rw [← value_eq_ofDigits, value_eq_ofDigitChars, Nat.ofDigitChars_append, ofDigitChars_zeros,
      Nat.ofDigitChars_toDigits (by decide) (by decide)]

/-- The signs that a number can be written with. Zero takes either. -/
def Signs (signed : Bool) (number : Int) (sign : List Char) : Prop :=
  0 ≤ number ∧ (sign = [] ∨ sign = ['+']) ∨ signed = true ∧ number ≤ 0 ∧ sign = ['-']

/-- A sign and the digits of a number. -/
def Spells (signed : Bool) (chars : List Char) (number : Int) : Prop :=
  ∃ sign digits, chars = sign ++ digits ∧ Signs signed number sign ∧ Counts digits number.natAbs

private theorem Counts.unsigned {char : Char} {rest : List Char} {size : Nat} (counts : Counts (char :: rest) size) :
    char ≠ '+' ∧ char ≠ '-' := by
  have digit := counts.ascii char List.mem_cons_self
  constructor <;> (rintro rfl; revert digit; decide)

private theorem spells_plus {signed : Bool} {digits : List Char} {number : Int} :
    Spells signed ('+' :: digits) number ↔ 0 ≤ number ∧ Counts digits number.natAbs := by
  constructor
  · rintro ⟨sign, row, same, ⟨least, rfl | rfl⟩ | ⟨_, _, rfl⟩, counts⟩
    · obtain rfl : '+' :: digits = row := same
      exact absurd rfl counts.unsigned.1
    · cases same
      exact ⟨least, counts⟩
    · cases same
  · rintro ⟨least, counts⟩
    exact ⟨['+'], digits, rfl, .inl ⟨least, .inr rfl⟩, counts⟩

private theorem spells_minus {signed : Bool} {digits : List Char} {number : Int} :
    Spells signed ('-' :: digits) number ↔ signed = true ∧ number ≤ 0 ∧ Counts digits number.natAbs := by
  constructor
  · rintro ⟨sign, row, same, ⟨least, rfl | rfl⟩ | ⟨allowed, most, rfl⟩, counts⟩
    · obtain rfl : '-' :: digits = row := same
      exact absurd rfl counts.unsigned.2
    · cases same
    · cases same
      exact ⟨allowed, most, counts⟩
  · rintro ⟨allowed, most, counts⟩
    exact ⟨['-'], digits, rfl, .inr ⟨allowed, most, rfl⟩, counts⟩

private theorem spells_plain {signed : Bool} {chars : List Char} {number : Int} (plus : ∀ rest, chars ≠ '+' :: rest)
    (minus : signed = true → ∀ rest, chars ≠ '-' :: rest) :
    Spells signed chars number ↔ 0 ≤ number ∧ Counts chars number.natAbs := by
  constructor
  · rintro ⟨sign, row, same, ⟨least, rfl | rfl⟩ | ⟨allowed, _, rfl⟩, counts⟩
    · obtain rfl : chars = row := same
      exact ⟨least, counts⟩
    · exact absurd same (plus row)
    · exact absurd same (minus allowed row)
  · rintro ⟨least, counts⟩
    exact ⟨[], chars, rfl, .inl ⟨least, .inl rfl⟩, counts⟩

theorem unsigned?_eq_some_iff {limit size : Nat} {chars : List Char} :
    unsigned? limit chars = some size ↔ Spells false chars size ∧ size ≤ limit := by
  simp only [unsigned?, Option.filter_eq_some_iff, natural?_eq_some_iff, decide_eq_true_eq]
  refine and_congr_left fun _ => ?_
  split
  · rw [spells_plus, Int.natAbs_natCast, and_iff_right (Int.natCast_nonneg size)]
  · rename_i plus
    have plain := @spells_plain false chars size plus nofun
    rw [plain, Int.natAbs_natCast, and_iff_right (Int.natCast_nonneg size)]

theorem map_ofNat_eq_some_iff {digits : List Char} {number : Int} :
    (natural? digits).map Int.ofNat = some number ↔ 0 ≤ number ∧ Counts digits number.natAbs := by
  rw [Option.map_eq_some_iff]
  constructor
  · rintro ⟨size, counted, rfl⟩
    exact ⟨Int.natCast_nonneg size, natural?_eq_some_iff.mp counted⟩
  · rintro ⟨least, counts⟩
    exact ⟨number.natAbs, natural?_eq_some_iff.mpr counts, Int.natAbs_of_nonneg least⟩

theorem map_neg_eq_some_iff {digits : List Char} {number : Int} :
    (natural? digits).map (fun size => - Int.ofNat size) = some number ↔
      number ≤ 0 ∧ Counts digits number.natAbs := by
  rw [Option.map_eq_some_iff]
  constructor
  · rintro ⟨size, counted, rfl⟩
    rw [Int.natAbs_neg]
    exact ⟨Int.neg_nonpos_of_nonneg (Int.natCast_nonneg size), natural?_eq_some_iff.mp counted⟩
  · rintro ⟨most, counts⟩
    refine ⟨number.natAbs, natural?_eq_some_iff.mpr counts, ?_⟩
    rw [Int.ofNat_eq_natCast, Int.ofNat_natAbs_of_nonpos most, Int.neg_neg]

theorem signed?_eq_some_iff {low high number : Int} {chars : List Char} :
    signed? low high chars = some number ↔ Spells true chars number ∧ low ≤ number ∧ number ≤ high := by
  simp only [signed?, Option.filter_eq_some_iff, decide_eq_true_eq]
  refine and_congr_left fun _ => ?_
  split
  · rw [spells_plus, map_ofNat_eq_some_iff]
  · rw [spells_minus, map_neg_eq_some_iff, and_iff_right rfl]
  · rename_i plus minus
    rw [spells_plain plus fun _ => minus, map_ofNat_eq_some_iff]

/-- What a text comes to as a number of a range, with blanks around it. -/
def Reads (signed : Bool) (low high : Int) (text : String) (number : Int) : Prop :=
  ∃ core, Stripped text.toList core ∧ Spells signed core number ∧ low ≤ number ∧ number ≤ high

/-- A parser that reads the numerals of its range, for integers of a type. -/
structure Exact {α : Type} (parser : String → Option α) (toInt : α → Int) (signed : Bool) (low high : Int) :
    Prop where
  inside : ∀ value, low ≤ toInt value ∧ toInt value ≤ high
  onto : ∀ number, low ≤ number → number ≤ high → ∃ value, toInt value = number
  spells : ∀ text value, parser text = some value ↔ Spells signed text.toList (toInt value)

private theorem unsigned_exact {α : Type} {limit : Nat} {ofNat : Nat → α} {toNat : α → Nat}
    (bound : ∀ value, toNat value ≤ limit) (back : ∀ value, ofNat (toNat value) = value)
    (forth : ∀ size ≤ limit, toNat (ofNat size) = size) :
    Exact (fun text => (unsigned? limit text.toList).map ofNat) (fun value => toNat value) false 0 limit where
  inside value := ⟨Int.natCast_nonneg _, Int.ofNat_le.mpr (bound value)⟩
  onto number least most := by
    refine ⟨ofNat number.toNat, ?_⟩
    rw [forth number.toNat (by omega), Int.toNat_of_nonneg least]
  spells text value := by
    rw [Option.map_eq_some_iff]
    constructor
    · rintro ⟨size, found, rfl⟩
      obtain ⟨spells, most⟩ := unsigned?_eq_some_iff.mp found
      rwa [forth size most]
    · intro spells
      exact ⟨toNat value, unsigned?_eq_some_iff.mpr ⟨spells, bound value⟩, back value⟩

theorem word32?_exact : Exact word32? (fun word => word.toNat) false 0 (2 ^ 32 - 1) :=
  unsigned_exact (fun word => Nat.le_pred_of_lt word.toNat_lt) (fun _ => UInt32.ofNat_toNat)
    fun _ most => UInt32.toNat_ofNat_of_lt' (Nat.lt_of_le_pred (by decide) most)

theorem word64?_exact : Exact word64? (fun word => word.toNat) false 0 (2 ^ 64 - 1) :=
  unsigned_exact (fun word => Nat.le_pred_of_lt word.toNat_lt) (fun _ => UInt64.ofNat_toNat)
    fun _ most => UInt64.toNat_ofNat_of_lt' (Nat.lt_of_le_pred (by decide) most)

theorem signed64?_exact : Exact signed64? Int64.toInt true (-2 ^ 63) (2 ^ 63 - 1) where
  inside word := ⟨word.le_toInt, word.toInt_le⟩
  onto number least most := ⟨Int64.ofInt number, Int64.toInt_ofInt_of_le least (by omega)⟩
  spells text word := by
    rw [signed64?, Option.map_eq_some_iff]
    constructor
    · rintro ⟨number, found, rfl⟩
      obtain ⟨spells, least, most⟩ := signed?_eq_some_iff.mp found
      have above : number < 2 ^ 63 := Int.lt_of_le_sub_one most
      rwa [Int64.toInt_ofInt_of_le least above]
    · intro spells
      exact ⟨word.toInt, signed?_eq_some_iff.mpr ⟨spells, word.le_toInt, word.toInt_le⟩, Int64.ofInt_toInt word⟩

namespace Exact

variable {α : Type} {parser : String → Option α} {toInt : α → Int} {signed : Bool} {low high : Int}

theorem trim_eq_some_iff (exact : Exact parser toInt signed low high) {text : String} {value : α} :
    parser (trim text) = some value ↔ Reads signed low high text (toInt value) := by
  rw [exact.spells, trim, String.toList_ofList]
  constructor
  · exact fun spells => ⟨_, trimmed_stripped text.toList, spells, exact.inside value⟩
  · rintro ⟨core, stripped, spells, _⟩
    rwa [stripped.trimmed_eq]

theorem trim_eq_none_iff (exact : Exact parser toInt signed low high) {text : String} :
    parser (trim text) = none ↔ ∀ number, ¬ Reads signed low high text number := by
  rw [Option.eq_none_iff_forall_ne_some]
  constructor
  · rintro unread number ⟨core, stripped, spells, least, most⟩
    obtain ⟨value, rfl⟩ := exact.onto number least most
    exact unread value (exact.trim_eq_some_iff.mpr ⟨core, stripped, spells, least, most⟩)
  · exact fun unread value found => unread _ (exact.trim_eq_some_iff.mp found)

end Exact

private theorem not_isBlank_of_isDigit {char : Char} (digit : char.isDigit = true) : isBlank char = false := by
  have range : 48 ≤ char.toNat ∧ char.toNat ≤ 57 := by
    simpa [Char.isDigit, UInt32.le_iff_toNat_le] using digit
  simp only [isBlank, Bool.or_eq_false_iff, Bool.and_eq_false_iff, decide_eq_false_iff_not, beq_eq_false_iff_ne]
  omega

private theorem Spells.not_isBlank {signed : Bool} {core : List Char} {number : Int}
    (spells : Spells signed core number) : ∀ char ∈ core, isBlank char = false := by
  obtain ⟨sign, digits, rfl, signs, counts⟩ := spells
  intro char member
  rcases List.mem_append.mp member with mark | digit
  · rcases signs with ⟨_, rfl | rfl⟩ | ⟨_, _, rfl⟩
    · cases mark
    · obtain rfl := List.mem_singleton.mp mark
      decide
    · obtain rfl := List.mem_singleton.mp mark
      decide
  · exact not_isBlank_of_isDigit (counts.ascii char digit)

theorem Spells.stripped {signed : Bool} {core before after : List Char} {number : Int}
    (spells : Spells signed core number) (blankBefore : ∀ char ∈ before, isBlank char = true)
    (blankAfter : ∀ char ∈ after, isBlank char = true) : Stripped (before ++ (core ++ after)) core where
  around := ⟨before, after, rfl, blankBefore, blankAfter⟩
  first char head := spells.not_isBlank char (List.mem_of_mem_head? head)
  last char final := spells.not_isBlank char (List.mem_of_mem_getLast? final)

end Numeral

end TaskKernel.Text
