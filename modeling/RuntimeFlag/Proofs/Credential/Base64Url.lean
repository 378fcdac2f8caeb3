import RuntimeFlag.Credential.Base64Url
import RuntimeFlag.Proofs.Text.Blank
/-!
# Bytes in base64 for URLs are read again

How bytes are written in base64 for URLs: three of them in four characters, and one or two that are
left in two or three characters. These characters are read as the bytes, with any padding behind
them.
-/
namespace RuntimeFlag.Base64Url

/-- The characters of the groups of six bits, in the order of their values. -/
def alphabet : List Char :=
  "ABCDEFGHIJKLMNOPQRSTUVWXYZabcdefghijklmnopqrstuvwxyz0123456789-_".toList

def digit (n : Nat) : Char := alphabet.getD n '_'

/-- The groups of six bits of bytes. The last group is filled up with zero bits. -/
def sextets : Bytes → List Nat
  | [] => []
  | [a] => [a.toNat / 4, a.toNat % 4 * 16]
  | [a, b] => [a.toNat / 4, a.toNat % 4 * 16 + b.toNat / 16, b.toNat % 16 * 4]
  | a :: b :: c :: rest =>
    a.toNat / 4 :: (a.toNat % 4 * 16 + b.toNat / 16) :: (b.toNat % 16 * 4 + c.toNat / 64) ::
      c.toNat % 64 :: sextets rest

/-- The characters that write bytes, without padding. -/
def encode (bytes : Bytes) : List Char := (sextets bytes).map digit

private theorem value?_digit : ∀ n < 64, value? (digit n) = some n := by decide +kernel

private theorem digit_ne : ∀ n < 64, digit n ≠ '.' ∧ digit n ≠ '=' := by decide +kernel

private theorem lt_of_mem_sextets {bytes : Bytes} : ∀ n ∈ sextets bytes, n < 64 := by
  fun_induction sextets bytes with
  | case1 => simp
  | case2 a =>
    have ha := a.toNat_lt
    simp
    omega
  | case3 a b =>
    have ha := a.toNat_lt
    have hb := b.toNat_lt
    simp
    omega
  | case4 a b c rest ih =>
    have ha := a.toNat_lt
    have hb := b.toNat_lt
    have hc := c.toNat_lt
    simp only [List.forall_mem_cons]
    exact ⟨by omega, by omega, by omega, by omega, ih⟩

private theorem byte_eq {b : UInt8} {n : Nat} (h : n = b.toNat) : byte n = b := by
  rw [byte, h, UInt8.ofNat_toNat]

private theorem ofSextets_sextets (bytes : Bytes) : ofSextets (sextets bytes) = some bytes := by
  fun_induction sextets bytes with
  | case1 => rfl
  | case2 a =>
    have ha := a.toNat_lt
    have hfirst : byte (a.toNat / 4 * 4 + a.toNat % 4 * 16 / 16) = a := byte_eq (by omega)
    rw [ofSextets, if_pos (by omega), hfirst]
  | case3 a b =>
    have ha := a.toNat_lt
    have hb := b.toNat_lt
    have hfirst : byte (a.toNat / 4 * 4 + (a.toNat % 4 * 16 + b.toNat / 16) / 16) = a :=
      byte_eq (by omega)
    have hsecond : byte ((a.toNat % 4 * 16 + b.toNat / 16) % 16 * 16 + b.toNat % 16 * 4 / 4) = b :=
      byte_eq (by omega)
    rw [ofSextets, if_pos (by omega), hfirst, hsecond]
  | case4 a b c rest ih =>
    have ha := a.toNat_lt
    have hb := b.toNat_lt
    have hc := c.toNat_lt
    have hfirst : byte (a.toNat / 4 * 4 + (a.toNat % 4 * 16 + b.toNat / 16) / 16) = a :=
      byte_eq (by omega)
    have hsecond : byte ((a.toNat % 4 * 16 + b.toNat / 16) % 16 * 16 +
        (b.toNat % 16 * 4 + c.toNat / 64) / 4) = b := byte_eq (by omega)
    have hthird : byte ((b.toNat % 16 * 4 + c.toNat / 64) % 4 * 64 + c.toNat % 64) = c :=
      byte_eq (by omega)
    rw [ofSextets, ih, hfirst, hsecond, hthird]
    rfl

private theorem mapM_value?_digit {ns : List Nat} (h : ∀ n ∈ ns, n < 64) :
    (ns.map digit).mapM value? = some ns := by
  induction ns with
  | nil => rfl
  | cons n ns ih =>
    obtain ⟨hn, hns⟩ := List.forall_mem_cons.mp h
    rw [List.map_cons, List.mapM_cons, value?_digit n hn, ih hns]
    rfl

/-- Bytes that were written are read. -/
theorem decode?_encode (bytes : Bytes) : decode? (encode bytes) = some bytes := by
  rw [decode?, encode, mapM_value?_digit lt_of_mem_sextets, Option.bind_some, ofSextets_sextets]

/-- The characters of the greatest values, and a last group that is filled up. -/
example : encode [0xFB, 0xFF] = "-_8".toList := by decide +kernel

theorem ne_of_mem_encode {bytes : Bytes} {c : Char} (h : c ∈ encode bytes) : c ≠ '.' ∧ c ≠ '=' := by
  obtain ⟨n, hn, rfl⟩ := List.mem_map.mp h
  exact digit_ne n (lt_of_mem_sextets n hn)

theorem dropTailWhile_padded (bytes : Bytes) (padding : Nat) :
    Text.dropTailWhile (· = '=') (encode bytes ++ List.replicate padding '=') = encode bytes := by
  have hplain : ∀ c ∈ encode bytes, decide (c = '=') = false := fun c hc =>
    decide_eq_false (ne_of_mem_encode hc).2
  have hpadding : ∀ c ∈ List.replicate padding '=', decide (c = '=') = true := by simp
  rw [Text.dropTailWhile_append_of_neg hplain, Text.dropTailWhile_of_pos hpadding, List.append_nil]

end RuntimeFlag.Base64Url
