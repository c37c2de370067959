import LevelFormat.Number.Power

/-!
Byte order: a number as the fixed-width list of its base-256 digits.

`join_split` and `split_join` say that a width and an order give a bijection between the
numbers below `256 ^ width` and the lists of `width` bytes.
-/

namespace LevelFormat.Wire

inductive Order where
  | little
  | big
  deriving DecidableEq, Inhabited

def digits : (width value : Nat) → List UInt8
  | 0, _ => []
  | width + 1, value => UInt8.ofNat value :: digits width (value / 256)

def ofDigits : List UInt8 → Nat
  | [] => 0
  | digit :: rest => digit.toNat + 256 * ofDigits rest

theorem length_digits (width value : Nat) : (digits width value).length = width := by
  induction width generalizing value with
  | zero => rfl
  | succ width ih => simp [digits, ih]

theorem ofDigits_lt (bytes : List UInt8) : ofDigits bytes < 256 ^ bytes.length := by
  induction bytes with
  | nil => simp [ofDigits]
  | cons digit rest ih =>
      have below := digit.toNat_lt
      rw [ofDigits, List.length_cons, Nat.pow_succ]
      omega

theorem ofDigits_digits (width value : Nat) (bound : value < 256 ^ width) :
    ofDigits (digits width value) = value := by
  induction width generalizing value with
  | zero => simp [digits, ofDigits]; omega
  | succ width ih =>
      rw [digits, ofDigits, ih _ (by rw [Nat.pow_succ] at bound; omega)]
      simp only [UInt8.toNat_ofNat']
      omega

theorem digits_ofDigits (bytes : List UInt8) : digits bytes.length (ofDigits bytes) = bytes := by
  induction bytes with
  | nil => rfl
  | cons digit rest ih =>
      have below := digit.toNat_lt
      rw [List.length_cons, digits, ofDigits]
      congr 1
      · rw [← UInt8.toNat_inj, UInt8.toNat_ofNat']
        omega
      · rw [show (digit.toNat + 256 * ofDigits rest) / 256 = ofDigits rest by omega, ih]

def Order.split (order : Order) (width value : Nat) : List UInt8 :=
  match order with
  | little => digits width value
  | big => (digits width value).reverse

def Order.join (order : Order) (bytes : List UInt8) : Nat :=
  match order with
  | little => ofDigits bytes
  | big => ofDigits bytes.reverse

theorem Order.length_split (order : Order) (width value : Nat) :
    (order.split width value).length = width := by
  cases order <;> simp [split, length_digits]

theorem Order.join_lt (order : Order) (bytes : List UInt8) :
    order.join bytes < 256 ^ bytes.length := by
  cases order with
  | little => exact ofDigits_lt bytes
  | big => simpa [join] using ofDigits_lt bytes.reverse

theorem Order.join_split (order : Order) (width value : Nat) (bound : value < 256 ^ width) :
    order.join (order.split width value) = value := by
  cases order <;> simp [join, split, ofDigits_digits width value bound]

theorem Order.split_join (order : Order) (bytes : List UInt8) :
    order.split bytes.length (order.join bytes) = bytes := by
  cases order with
  | little => exact digits_ofDigits bytes
  | big =>
      have whole := digits_ofDigits bytes.reverse
      rw [List.length_reverse] at whole
      simp [join, split, whole]

end LevelFormat.Wire
