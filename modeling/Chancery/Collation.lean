import Chancery.Protocol
import Chancery.Lib.StableSort

/-!
# Orders of texts

`localeCompare` follows the root collation: `_` before digits before letters, whatever their
case, and where two texts are the same so far, lower case first.  Python compares code points.

* `textKey`, `compareTexts` — each language's order, by the sort keys of the texts.
* `collatable` — the texts of letters, digits and `_`, which have different keys when they
  differ: `compareTexts_eq_iff`.
* `addressText_collatable` — addresses are such texts.
-/

set_option autoImplicit false

namespace Chancery

/-- The weight of a character of the texts compared here; zero separates the levels. -/
def primaryWeight (c : Char) : Nat :=
  if c.isDigit then 2 + (c.toNat - '0'.toNat)
  else if c.isAlpha then 12 + (c.toLower.toNat - 'a'.toNat)
  else 1

/-- Upper case comes after lower case. -/
def tertiaryWeight (c : Char) : Nat := if c.isUpper then 1 else 0

/-- The sort key of a text. -/
def textKey (L : Language) (text : String) : List Nat :=
  match L with
  | .typescript => text.toList.map primaryWeight ++ 0 :: text.toList.map tertiaryWeight
  | .python => text.toList.map Char.toNat

/-- `left.localeCompare(right)` in TypeScript; the order of `str` in Python. -/
def compareTexts (L : Language) : String → String → Ordering := compareOn (textKey L)

example : compareTexts .typescript "b" "C" = .lt ∧ compareTexts .python "b" "C" = .gt := by decide

instance (L : Language) : Std.TransCmp (compareTexts L) :=
  inferInstanceAs (Std.TransCmp (compareOn (textKey L)))

/-- Items by one of their texts. -/
instance {α : Type} (L : Language) (text : α → String) :
    Std.TransCmp fun left right => compareTexts L (text left) (text right) :=
  inferInstanceAs (Std.TransCmp (compareOn fun item => textKey L (text item)))

/-! ## Different texts -/

/-- The characters of names and addresses. -/
def collatableChar (c : Char) : Bool := c.isAlphanum || c == '_'

/-- A text of such characters. -/
def collatable (text : String) : Bool := text.toList.all collatableChar

theorem primaryWeight_ne_zero (c : Char) : primaryWeight c ≠ 0 := by
  unfold primaryWeight
  split
  · omega
  · split <;> omega

/-- The levels of a key can be told apart. -/
theorem levels_injective {f : Char → Nat} (hf : ∀ c, f c ≠ 0) : ∀ {cs ds : List Char}
    {rest rest' : List Nat}, cs.map f ++ 0 :: rest = ds.map f ++ 0 :: rest' →
      cs.map f = ds.map f ∧ rest = rest'
  | [], [], _, _, h => ⟨rfl, (List.cons.inj h).2⟩
  | [], d :: _, _, _, h => absurd (List.cons.inj h).1.symm (hf d)
  | c :: _, [], _, _, h => absurd (List.cons.inj h).1 (hf c)
  | c :: cs, d :: ds, _, _, h => by
    obtain ⟨hhead, htail⟩ := List.cons.inj h
    obtain ⟨hmap, hrest⟩ := levels_injective hf htail
    exact ⟨by rw [List.map_cons, List.map_cons, hhead, hmap], hrest⟩

theorem collatableChar_lt {c : Char} (h : collatableChar c = true) : c.toNat < 128 := by
  simp only [collatableChar, Char.isAlphanum, Char.isAlpha, Char.isUpper, Char.isLower,
    Char.isDigit, Bool.or_eq_true, Bool.and_eq_true, decide_eq_true_eq, beq_iff_eq] at h
  have hle : ∀ {bound : UInt32}, c.val ≤ bound → c.toNat ≤ bound.toNat := fun hle => hle
  rcases h with ((⟨_, h⟩ | ⟨_, h⟩) | ⟨_, h⟩) | rfl
  · exact lt_of_le_of_lt (hle h) (by decide)
  · exact lt_of_le_of_lt (hle h) (by decide)
  · exact lt_of_le_of_lt (hle h) (by decide)
  · decide

/-- The character that has the weights. -/
def characterOfWeights (primary tertiary : Nat) : Char :=
  if primary < 2 then '_'
  else if primary < 12 then Char.ofNat ('0'.toNat + (primary - 2))
  else if tertiary = 0 then Char.ofNat ('a'.toNat + (primary - 12))
  else Char.ofNat ('A'.toNat + (primary - 12))

theorem characterOfWeights_weights {c : Char} (h : collatableChar c = true) :
    characterOfWeights (primaryWeight c) (tertiaryWeight c) = c := by
  have htable : ∀ n < 128, collatableChar (Char.ofNat n) = true →
      characterOfWeights (primaryWeight (Char.ofNat n)) (tertiaryWeight (Char.ofNat n)) =
        Char.ofNat n := by
    decide +kernel
  have hcharacter := htable c.toNat (collatableChar_lt h)
  rw [Char.ofNat_toNat] at hcharacter
  exact hcharacter h

/-- Characters of one weight at both levels are the same. -/
theorem weights_injective {c d : Char} (hc : collatableChar c = true) (hd : collatableChar d = true)
    (hprimary : primaryWeight c = primaryWeight d)
    (htertiary : tertiaryWeight c = tertiaryWeight d) : c = d := by
  rw [← characterOfWeights_weights hc, hprimary, htertiary, characterOfWeights_weights hd]

theorem eq_of_weights : ∀ {cs ds : List Char}, cs.all collatableChar = true →
    ds.all collatableChar = true → cs.map primaryWeight = ds.map primaryWeight →
      cs.map tertiaryWeight = ds.map tertiaryWeight → cs = ds
  | [], [], _, _, _, _ => rfl
  | [], _ :: _, _, _, h, _ => nomatch h
  | _ :: _, [], _, _, h, _ => nomatch h
  | c :: cs, d :: ds, hcs, hds, hprimary, htertiary => by
    rw [List.all_cons, Bool.and_eq_true] at hcs hds
    obtain ⟨hhead, htail⟩ := List.cons.inj hprimary
    obtain ⟨hhead', htail'⟩ := List.cons.inj htertiary
    rw [weights_injective hcs.1 hds.1 hhead hhead', eq_of_weights hcs.2 hds.2 htail htail']

theorem textKey_injective (L : Language) {left right : String} (hleft : collatable left = true)
    (hright : collatable right = true) (h : textKey L left = textKey L right) : left = right := by
  refine String.toList_inj.1 ?_
  cases L with
  | typescript =>
    obtain ⟨hprimary, htertiary⟩ := levels_injective primaryWeight_ne_zero h
    exact eq_of_weights hleft hright hprimary htertiary
  | python => exact List.map_injective_iff.2 (fun _ _ => Char.toNat_inj.1) h

/-- **Different texts of letters, digits and `_` are never held for equal.** -/
theorem compareTexts_eq_iff (L : Language) {left right : String} (hleft : collatable left = true)
    (hright : collatable right = true) : compareTexts L left right = .eq ↔ left = right := by
  constructor
  · intro h
    exact textKey_injective L hleft hright (Std.LawfulEqCmp.eq_of_compare h)
  · rintro rfl
    exact Std.ReflCmp.compare_self

/-! ## Addresses -/

theorem base58Alphabet_collatable : ∀ c ∈ base58Alphabet, collatableChar c = true :=
  List.all_eq_true.1 (by decide : base58Alphabet.all collatableChar = true)

theorem base58Digit_collatable (d : Nat) : collatableChar (base58Digit d) = true := by
  unfold base58Digit
  rw [List.getD_eq_getElem?_getD]
  cases h : base58Alphabet[d]? with
  | none => rfl
  | some c => exact base58Alphabet_collatable c (List.mem_of_getElem? h)

theorem addressText_collatable (key : PublicKey) : collatable key.toBase58 = true := by
  have hones : ∀ n, (List.replicate n '1').all collatableChar = true := by
    intro n
    rw [List.all_replicate]
    split <;> rfl
  have hdigits : ∀ ds : List Nat, (ds.map base58Digit).all collatableChar = true := by
    intro ds
    rw [List.all_map, List.all_eq_true]
    exact fun d _ => base58Digit_collatable d
  unfold collatable PublicKey.toBase58 encodeBase58
  dsimp only
  split
  · rw [String.toList_ofList]
    exact hones _
  · rw [String.toList_ofList, List.all_append, hones, hdigits]
    rfl

/-- Different addresses compare different. -/
theorem compareAddresses_eq_iff (L : Language) (left right : PublicKey) :
    compareTexts L left.toBase58 right.toBase58 = .eq ↔ left = right :=
  (compareTexts_eq_iff L (addressText_collatable left) (addressText_collatable right)).trans
    PublicKey.toBase58_injective.eq_iff

end Chancery
