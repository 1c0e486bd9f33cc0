import TaskKernel.Thread.Lifecycle

/-!
Names that the system takes: those without a zero byte. A name that is made up of a stem and a number is one of
these when its stem is, for numbers are written in digits.
-/
namespace TaskKernel.Creation

private theorem toList_loop (bytes : ByteArray) (place : Nat) (found : List UInt8) :
    ByteArray.toList.loop bytes place found = found.reverse ++ bytes.data.toList.drop place := by
  induction place, found using ByteArray.toList.loop.induct bytes with
  | case1 place found within ih =>
    have inside : place < bytes.data.toList.length := within
    have next : bytes.get! place = bytes.data.toList[place] := getElem!_pos bytes.data place within
    rw [ByteArray.toList.loop, if_pos within, ih, List.drop_eq_getElem_cons inside, next, List.reverse_cons,
      List.append_assoc]
    rfl
  | case2 place found beyond =>
    have outside : bytes.data.toList.length ≤ place := Nat.le_of_not_lt beyond
    rw [ByteArray.toList.loop, if_neg beyond, List.drop_eq_nil_of_le outside, List.append_nil]

theorem toList_eq (bytes : ByteArray) : bytes.toList = bytes.data.toList := by
  rw [ByteArray.toList, toList_loop]
  rfl

theorem nameFault?_eq_none {name : String} : nameFault? name = none ↔ 0 ∉ name.toUTF8.toList := by
  simp only [nameFault?, Option.map_eq_none_iff, List.findIdx?_eq_none_iff, List.mem_map, decide_eq_false_iff_not]
  refine ⟨fun proper zero => proper 0 ⟨0, zero, rfl⟩ rfl, ?_⟩
  rintro proper _ ⟨byte, member, rfl⟩ zero
  obtain rfl : byte = 0 := UInt8.toNat_inj.mp zero
  exact proper member

theorem nameFault?_append {start rest : String} (proper : nameFault? start = none) (good : nameFault? rest = none) :
    nameFault? (start ++ rest) = none := by
  rw [nameFault?_eq_none] at proper good ⊢
  rw [toList_eq, String.toUTF8] at proper good ⊢
  rw [String.toByteArray_append, ByteArray.toList_data_append, List.mem_append]
  exact fun zero => zero.elim proper good

private theorem nameFault?_number (number : Nat) : nameFault? (toString number) = none := by
  rw [nameFault?_eq_none, toList_eq, String.toUTF8, Nat.toString_eq_ofList_toDigits, String.toByteArray_ofList,
    List.utf8Encode, List.toList_data_toByteArray]
  intro zero
  obtain ⟨digit, member, zero⟩ := List.mem_flatMap.mp zero
  have digits := Nat.isDigit_of_mem_toDigits (by omega) (Nat.le_refl 10) member
  simp only [Char.isDigit, Bool.and_eq_true, decide_eq_true_eq, UInt32.le_iff_toNat_le] at digits
  have least : 48 ≤ digit.val.toNat := digits.1
  have most : digit.val.toNat ≤ 57 := digits.2
  have short : digit.utf8Size = 1 := by
    rw [Char.utf8Size, if_pos]
    exact UInt32.le_iff_toNat_le.mpr (Nat.le_trans most (by decide))
  rw [String.utf8EncodeChar_eq_singleton short, List.mem_singleton] at zero
  have wraps : 0 = digit.val.toNat % 2 ^ 8 := congrArg UInt8.toNat zero
  omega

theorem nameFault?_numbered {stem : String} (proper : nameFault? stem = none) (number : Nat) :
    nameFault? (stem ++ "-" ++ toString number) = none :=
  nameFault?_append (nameFault?_append proper (by decide +kernel)) (nameFault?_number number)

end TaskKernel.Creation
