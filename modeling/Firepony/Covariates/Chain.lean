import Mathlib

/-! # Covariate keys, the empirical table and the chain that packs keys

A covariate key packs the covariates of one chain into a single word. After postprocessing,
each key of a table carries an empirical value: its observation count, its fractional mismatch
mass and the empirical quality derived from them. The table keeps keys and values in two
parallel arrays of `size()` entries, so that entry `i` is `keys[i]` with `values[i]`; the
structure below carries that agreement, and an entry is addressed by an index below `size()`.

A covariate chain is a sequence of bit-field descriptors. Packing a tuple of covariate values
iterates the chain from its first covariate, which takes the least significant bits, and masks
each value to its field. Decoding covariate `index` (counted from 1 at the least significant
end) reads its field back; an index outside the chain decodes to 0, as the chain's null
terminator does. The fields together fit in the 64-bit key and each fits in the `uint32` a
covariate decodes to, so neither packing nor decoding truncates, and a tuple of values that
fit their fields decodes to itself.
-/

namespace Firepony

/-- `covariate_key`: a packed composite key, a 64-bit word in the spec. -/
abbrev CovariateKey := UInt64

/-- `covariate_empirical_value` (quantizer.h), with the fields the table dump reads. -/
structure CovariateEmpiricalValue where
  observations : UInt32
  mismatches : Float
  empiricalQuality : Float
deriving Repr

/-- Modelled from the spec: `covariate_empirical_table` (its header is not among the
repository's files) as parallel key and value arrays of `size()` entries each, with `size()`
a `uint32` like the counter the dump compares it against. -/
structure CovariateEmpiricalTable where
  size : UInt32
  keys : Array CovariateKey
  values : Array CovariateEmpiricalValue
  keys_size : keys.size = size.toNat
  values_size : values.size = size.toNat

namespace CovariateEmpiricalTable

/-- `keys[i]`. -/
def key (table : CovariateEmpiricalTable) (i : Fin table.size.toNat) : CovariateKey :=
  table.keys.get (i.cast table.keys_size.symm)

/-- `values[i]`. -/
def value (table : CovariateEmpiricalTable) (i : Fin table.size.toNat) : CovariateEmpiricalValue :=
  table.values.get (i.cast table.values_size.symm)

end CovariateEmpiricalTable

/-- Modelled from the spec: a covariate chain (the bit packers' headers are not among the
repository's files), given by the bit widths of its covariates, first covariate first. -/
structure CovariateChain where
  bits : List Nat
  fits : bits.sum ≤ 64
  narrow : ∀ width ∈ bits, width ≤ 32

namespace CovariateChain

/-- Field `index` of a word laid out by `bits`, counting from 1 at the least significant end. -/
def fieldOf : List Nat → Nat → Nat → Nat
  | [], _, _ => 0
  | _ :: _, _, 0 => 0
  | width :: _, word, 1 => word % 2 ^ width
  | width :: rest, word, index + 2 => fieldOf rest (word / 2 ^ width) (index + 1)

/-- Pack values into consecutive fields, the first value lowest, each masked to its width. -/
def pack : List Nat → List Nat → Nat
  | width :: rest, value :: values => value % 2 ^ width + 2 ^ width * pack rest values
  | _, _ => 0

/-- `chain::decode(key, index)`. -/
def decode (chain : CovariateChain) (key : CovariateKey) (index : UInt32) : UInt32 :=
  (fieldOf chain.bits key.toNat index.toNat).toUInt32

/-- Pack one value per covariate, in chain order, into a key. -/
def encode (chain : CovariateChain) (values : List UInt32) : CovariateKey :=
  (pack chain.bits (values.map UInt32.toNat)).toUInt64

theorem fieldOf_lt (bits : List Nat) (word index : Nat) (inside : index < bits.length) :
    fieldOf bits word (index + 1) < 2 ^ bits[index] := by
  induction bits generalizing word index with
  | nil => simp at inside
  | cons width rest ih =>
    cases index with
    | zero => exact Nat.mod_lt _ (Nat.two_pow_pos _)
    | succ index => exact ih _ index (by simpa using inside)

theorem pack_lt (bits values : List Nat) : pack bits values < 2 ^ bits.sum := by
  induction bits generalizing values with
  | nil => simp [pack]
  | cons width rest ih =>
    cases values with
    | nil => exact Nat.two_pow_pos _
    | cons value values =>
      have low := Nat.mod_lt value (Nat.two_pow_pos width)
      have high := ih values
      calc pack (width :: rest) (value :: values)
          = value % 2 ^ width + 2 ^ width * pack rest values := rfl
        _ < 2 ^ width + 2 ^ width * pack rest values := by omega
        _ = 2 ^ width * (pack rest values + 1) := by rw [Nat.mul_add, Nat.mul_one, Nat.add_comm]
        _ ≤ 2 ^ width * 2 ^ rest.sum := Nat.mul_le_mul_left _ high
        _ = 2 ^ (width :: rest).sum := by rw [List.sum_cons, Nat.pow_add]

/-- Reading field `index + 1` of a packed word gives back the value packed there, masked. -/
theorem fieldOf_pack (bits values : List Nat) (index : Nat) (inBits : index < bits.length)
    (inValues : index < values.length) :
    fieldOf bits (pack bits values) (index + 1) = values[index] % 2 ^ bits[index] := by
  induction bits generalizing values index with
  | nil => simp at inBits
  | cons width rest ih =>
    cases values with
    | nil => simp at inValues
    | cons value values =>
      have positive := Nat.two_pow_pos width
      cases index with
      | zero => simp [fieldOf, pack, Nat.add_mul_mod_self_left]
      | succ index =>
        have shifted : (value % 2 ^ width + 2 ^ width * pack rest values) / 2 ^ width =
            pack rest values := by
          rw [Nat.add_mul_div_left _ _ positive, Nat.div_eq_of_lt (Nat.mod_lt _ positive),
            Nat.zero_add]
        simp only [pack, fieldOf, shifted]
        exact ih values index (by simpa using inBits) (by simpa using inValues)

theorem fieldOf_lt_two_pow (bits : List Nat) (narrow : ∀ width ∈ bits, width ≤ 32)
    (word index : Nat) : fieldOf bits word index < 2 ^ 32 := by
  induction bits generalizing word index with
  | nil => simp [fieldOf]
  | cons width rest ih =>
    match index with
    | 0 => simp [fieldOf]
    | 1 =>
      exact lt_of_lt_of_le (Nat.mod_lt _ (Nat.two_pow_pos _))
        (Nat.pow_le_pow_right (by omega) (narrow width (List.mem_cons_self _ _)))
    | index + 2 => exact ih (fun other mem => narrow other (List.mem_cons_of_mem _ mem)) _ _

theorem encode_toNat (chain : CovariateChain) (values : List UInt32) :
    (chain.encode values).toNat = pack chain.bits (values.map UInt32.toNat) :=
  Nat.mod_eq_of_lt (lt_of_lt_of_le (pack_lt _ _) (Nat.pow_le_pow_right (by omega) chain.fits))

/-- Decoding never truncates: a covariate is its field of the key. -/
theorem decode_toNat (chain : CovariateChain) (key : CovariateKey) (index : UInt32) :
    (chain.decode key index).toNat = fieldOf chain.bits key.toNat index.toNat :=
  Nat.mod_eq_of_lt (fieldOf_lt_two_pow _ chain.narrow _ _)

/-- A covariate decodes below the size of its field. -/
theorem decode_lt (chain : CovariateChain) (key : CovariateKey) (index : UInt32)
    (positive : 0 < index.toNat) (inside : index.toNat ≤ chain.bits.length) :
    (chain.decode key index).toNat < 2 ^ chain.bits.getD (index.toNat - 1) 0 := by
  have field := fieldOf_lt chain.bits key.toNat (index.toNat - 1) (by omega)
  rw [Nat.sub_add_cancel positive] at field
  rw [decode_toNat, List.getD_eq_getElem _ _ (show index.toNat - 1 < chain.bits.length by omega)]
  exact field

/-- A tuple whose values fit their fields decodes to itself. -/
theorem decode_encode (chain : CovariateChain) (values : List UInt32)
    (valid : List.Forall₂ (fun value width => value.toNat < 2 ^ width) values chain.bits)
    (index : UInt32) (positive : 0 < index.toNat) (inside : index.toNat ≤ values.length) :
    chain.decode (chain.encode values) index = values.getD (index.toNat - 1) 0 := by
  obtain ⟨k, shift⟩ : ∃ k, index.toNat = k + 1 := ⟨index.toNat - 1, by omega⟩
  have length := valid.length_eq
  have inValues : k < values.length := by omega
  have fitsField : values[k].toNat < 2 ^ chain.bits[k] := by
    simpa using valid.get inValues (by omega)
  apply UInt32.toNat.inj
  rw [decode_toNat, shift, Nat.add_sub_cancel, encode_toNat,
    fieldOf_pack _ _ _ (by omega) (by simpa using inValues), List.getD_eq_getElem _ _ inValues,
    List.getElem_map, Nat.mod_eq_of_lt fitsField]

end CovariateChain

end Firepony
