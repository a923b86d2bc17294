import Mathlib

/-!
# Encoders and decoders

An encoder may reject its input; a decoder reads a value off the front of its input and
returns what is left.  Two laws relate them, and both compose through repetition.

* `Recovers` — decoding an encoding followed by anything gives the canonical value and stops
  exactly at what follows.
* `Reencodes` — what a decoder consumed is the encoding of what it returned.
* `encodeEach`, `decodeEach` — a run of items at consecutive indexes.
-/

set_option autoImplicit false

/-- A sequenced computation returns exactly when both parts do. -/
theorem Except.bind_eq_ok {ε α β : Type} {x : Except ε α} {f : α → Except ε β} {b : β} :
    x >>= f = .ok b ↔ ∃ a, x = .ok a ∧ f a = .ok b := by
  cases x with
  | error e =>
    constructor
    · intro h; cases h
    · rintro ⟨_, h, _⟩; cases h
  | ok a =>
    constructor
    · exact fun h => ⟨a, rfl, h⟩
    · rintro ⟨_, h, hf⟩; cases h; exact hf

theorem Except.bind_of_ok {ε α β : Type} {x : Except ε α} {a : α} (h : x = .ok a)
    (f : α → Except ε β) : x >>= f = f a := by
  rw [h]
  rfl

theorem Except.bind_congr {ε α β : Type} {x : Except ε α} {f g : α → Except ε β}
    (h : ∀ a, x = .ok a → f a = g a) : x >>= f = x >>= g := by
  cases x with
  | error e => rfl
  | ok a => exact h a rfl

/-- Computations whose parts differ by maps of what they return. -/
theorem Except.bind_map {ε α α' β β' : Type} {x : Except ε α} {x' : Except ε α'}
    {f : α → Except ε β} {f' : α' → Except ε β'} {k : α → α'} {m : β → β'} (hx : x' = x.map k)
    (hf : ∀ a, x = .ok a → f' (k a) = (f a).map m) : x' >>= f' = (x >>= f).map m := by
  subst hx
  cases x with
  | error e => rfl
  | ok a => exact hf a rfl

theorem Except.exists_of_toBool {ε α : Type} {x : Except ε α} (h : x.toBool = true) :
    ∃ a, x = .ok a := by
  cases x with
  | error e => cases h
  | ok a => exact ⟨a, rfl⟩

theorem Except.exists_of_any {ε α : Type} {x : Except ε α} {check : α → Bool}
    (h : x.toOption.any check = true) : ∃ a, x = .ok a ∧ check a = true := by
  cases x with
  | error e => cases h
  | ok a => exact ⟨a, rfl, h⟩

/-- Computations that return the same agree up to their errors. -/
theorem Except.toOption_eq_of_ok_iff {ε ε' α : Type} {x : Except ε α} {y : Except ε' α}
    (h : ∀ a, x = .ok a ↔ y = .ok a) : x.toOption = y.toOption := by
  cases hx : x with
  | ok a =>
    rw [(h a).1 hx]
    rfl
  | error e =>
    cases hy : y with
    | ok a => exact absurd ((h a).2 hy) (by simp [hx])
    | error e' => rfl

theorem Except.ok_of_toOption {ε α : Type} {x : Except ε α} {a : α} (h : x.toOption = some a) :
    x = .ok a := by
  cases x with
  | error e => cases h
  | ok b => rw [Option.some.inj h]

/-- A computation on every item returns exactly when each of them does. -/
theorem Except.mapM_eq_ok {ε α β : Type} {f : α → Except ε β} :
    ∀ {as : List α} {bs : List β},
      as.mapM f = .ok bs ↔ List.Forall₂ (fun a b => f a = .ok b) as bs
  | [], bs => by
    rw [List.forall₂_nil_left_iff, List.mapM_nil]
    constructor
    · intro h
      cases h
      rfl
    · rintro rfl
      rfl
  | a :: as, bs => by
    rw [List.mapM_cons, Except.bind_eq_ok, List.forall₂_cons_left_iff]
    constructor
    · rintro ⟨b, hb, h⟩
      obtain ⟨rest, hrest, hret⟩ := Except.bind_eq_ok.1 h
      cases hret
      exact ⟨b, rest, hb, Except.mapM_eq_ok.1 hrest, rfl⟩
    · rintro ⟨b, rest, hb, hrest, rfl⟩
      exact ⟨b, hb, Except.bind_eq_ok.2 ⟨rest, Except.mapM_eq_ok.2 hrest, rfl⟩⟩

theorem Except.mapM_congr {ε α β : Type} {f g : α → Except ε β} :
    ∀ {as : List α}, (∀ a ∈ as, f a = g a) → as.mapM f = as.mapM g
  | [], _ => rfl
  | a :: as, h => by
    rw [List.mapM_cons, List.mapM_cons, h a List.mem_cons_self,
      Except.mapM_congr fun b hb => h b (List.mem_cons_of_mem _ hb)]

theorem Except.mapM_map {ε α α' β β' : Type} {f : α → Except ε β} {f' : α' → Except ε β'}
    {g : α → α'} {k : β → β'} : ∀ {as : List α}, (∀ a ∈ as, f' (g a) = (f a).map k) →
      (as.map g).mapM f' = (as.mapM f).map (List.map k)
  | [], _ => rfl
  | a :: as, h => by
    rw [List.map_cons, List.mapM_cons, List.mapM_cons]
    refine Except.bind_map (h a List.mem_cons_self) fun b _ => ?_
    have hrest : (as.map g).mapM f' = (as.mapM f).map (List.map k) :=
      Except.mapM_map fun other hother => h other (List.mem_cons_of_mem a hother)
    exact Except.bind_map hrest fun _ _ => rfl

theorem forall₂_of_exists {α β : Type} {R : α → β → Prop} : ∀ {as : List α},
    (∀ a ∈ as, ∃ b, R a b) → ∃ bs, List.Forall₂ R as bs
  | [], _ => ⟨[], .nil⟩
  | a :: as, h => by
    obtain ⟨b, hb⟩ := h a List.mem_cons_self
    obtain ⟨bs, hbs⟩ := forall₂_of_exists fun other hother => h other (List.mem_cons_of_mem a hother)
    exact ⟨b :: bs, hbs.cons hb⟩

/-- The computation on every item returns when it does on each. -/
theorem Except.exists_mapM {ε α β : Type} {f : α → Except ε β} {as : List α}
    (h : ∀ a ∈ as, ∃ b, f a = .ok b) : ∃ bs, as.mapM f = .ok bs :=
  (forall₂_of_exists h).imp fun _ => Except.mapM_eq_ok.2

theorem Except.mapM_perm {ε α β : Type} {f : α → Except ε β} {as as' : List α} {bs : List β}
    (hperm : as.Perm as') (h : as.mapM f = .ok bs) : ∃ bs', as'.mapM f = .ok bs' ∧ bs.Perm bs' := by
  obtain ⟨bs', hall, hbs⟩ := List.perm_comp_forall₂ hperm.symm (Except.mapM_eq_ok.1 h)
  exact ⟨bs', Except.mapM_eq_ok.2 hall, hbs.symm⟩

theorem forall₂_exists_left {α β : Type} {R : α → β → Prop} {as : List α} {bs : List β}
    (h : List.Forall₂ R as bs) : ∀ b ∈ bs, ∃ a ∈ as, R a b := by
  induction h with
  | nil => exact fun b hb => (List.not_mem_nil hb).elim
  | cons hab _ ih =>
    refine List.forall_mem_cons.2 ⟨⟨_, List.mem_cons_self, hab⟩, fun b hb => ?_⟩
    obtain ⟨a, ha, hR⟩ := ih b hb
    exact ⟨a, List.mem_cons_of_mem _ ha, hR⟩

namespace Codec

variable {ε σ α β : Type}

/-- Decoding gives back what was encoded, in its canonical form. -/
def Recovers (enc : α → Except ε (List σ)) (dec : List σ → Except ε (β × List σ))
    (canonical : α → β) : Prop :=
  ∀ a bytes, enc a = .ok bytes → ∀ rest, dec (bytes ++ rest) = .ok (canonical a, rest)

/-- Encoding gives back what was decoded. -/
def Reencodes (enc : β → Except ε (List σ)) (dec : List σ → Except ε (β × List σ)) : Prop :=
  ∀ input b rest, dec input = .ok (b, rest) → ∃ bytes, enc b = .ok bytes ∧ input = bytes ++ rest

/-- The encodings of the items one after the other; an item's encoder knows its index. -/
def encodeEach (enc : Nat → α → Except ε (List σ)) : Nat → List α → Except ε (List σ)
  | _, [] => .ok []
  | index, a :: as => do
    let head ← enc index a
    let tail ← encodeEach enc (index + 1) as
    return head ++ tail

/-- `count` items read one after the other. -/
def decodeEach (dec : Nat → List σ → Except ε (β × List σ)) :
    Nat → Nat → List σ → Except ε (List β × List σ)
  | 0, _, input => .ok ([], input)
  | count + 1, index, input => do
    let (b, input) ← dec index input
    let (bs, input) ← decodeEach dec count (index + 1) input
    return (b :: bs, input)

theorem encodeEach_cons {enc : Nat → α → Except ε (List σ)} {index : Nat} {a : α} {as : List α}
    {bytes : List σ} (h : encodeEach enc index (a :: as) = .ok bytes) :
    ∃ head tail, enc index a = .ok head ∧ encodeEach enc (index + 1) as = .ok tail ∧
      bytes = head ++ tail := by
  obtain ⟨head, hhead, h⟩ := Except.bind_eq_ok.1 h
  obtain ⟨tail, htail, h⟩ := Except.bind_eq_ok.1 h
  cases h
  exact ⟨head, tail, hhead, htail, rfl⟩

/-- An encoder that accepts at least as much encodes a run that the other one accepts. -/
theorem encodeEach_mono {enc enc' : Nat → α → Except ε (List σ)}
    (h : ∀ index a bytes, enc index a = .ok bytes → enc' index a = .ok bytes) :
    ∀ {index : Nat} {as : List α} {bytes : List σ},
      encodeEach enc index as = .ok bytes → encodeEach enc' index as = .ok bytes
  | _, [], _, hb => hb
  | index, a :: as, bytes, hb => by
    obtain ⟨head, tail, hhead, htail, rfl⟩ := encodeEach_cons hb
    exact Except.bind_eq_ok.2 ⟨head, h index a head hhead,
      Except.bind_eq_ok.2 ⟨tail, encodeEach_mono h htail, rfl⟩⟩

/-- A run is encoded when every item is. -/
theorem encodeEach_total (enc : Nat → α → Except ε (List σ)) : ∀ {as : List α},
    (∀ a ∈ as, ∀ index, ∃ chunk, enc index a = .ok chunk) → ∀ index : Nat,
      ∃ bytes, encodeEach enc index as = .ok bytes
  | [], _, _ => ⟨[], rfl⟩
  | a :: as, h, index => by
    obtain ⟨chunk, hchunk⟩ := h a List.mem_cons_self index
    obtain ⟨bytes, hbytes⟩ := encodeEach_total enc
      (fun other hother => h other (List.mem_cons_of_mem _ hother)) (index + 1)
    exact ⟨_, Except.bind_eq_ok.2 ⟨_, hchunk, Except.bind_eq_ok.2 ⟨_, hbytes, rfl⟩⟩⟩

theorem decodeEach_succ {dec : Nat → List σ → Except ε (β × List σ)} {count index : Nat}
    {input rest : List σ} {bs : List β}
    (h : decodeEach dec (count + 1) index input = .ok (bs, rest)) :
    ∃ b bs' input', dec index input = .ok (b, input') ∧
      decodeEach dec count (index + 1) input' = .ok (bs', rest) ∧ bs = b :: bs' := by
  obtain ⟨⟨b, input'⟩, hb, h⟩ := Except.bind_eq_ok.1 h
  obtain ⟨⟨bs', rest'⟩, hbs, h⟩ := Except.bind_eq_ok.1 h
  cases h
  exact ⟨b, bs', input', hb, hbs, rfl⟩

theorem decodeEach_length {dec : Nat → List σ → Except ε (β × List σ)} :
    ∀ {count index : Nat} {input rest : List σ} {bs : List β},
      decodeEach dec count index input = .ok (bs, rest) → bs.length = count
  | 0, _, _, _, _, h => by cases h; rfl
  | count + 1, index, input, rest, bs, h => by
    obtain ⟨b, bs', input', _, hbs, rfl⟩ := decodeEach_succ h
    rw [List.length_cons, decodeEach_length hbs]

/-- **Recovery lifts to runs of items.** -/
theorem recovers_each {enc : Nat → α → Except ε (List σ)}
    {dec : Nat → List σ → Except ε (β × List σ)} {canonical : α → β}
    (hitem : ∀ index, Recovers (enc index) (dec index) canonical) :
    ∀ (as : List α) (index : Nat) (bytes : List σ), encodeEach enc index as = .ok bytes →
      ∀ rest, decodeEach dec as.length index (bytes ++ rest) = .ok (as.map canonical, rest)
  | [], _, _, h, _ => by cases h; rfl
  | a :: as, index, bytes, h, rest => by
    obtain ⟨head, tail, hhead, htail, rfl⟩ := encodeEach_cons h
    have hfirst := hitem index a head hhead (tail ++ rest)
    have hrest := recovers_each hitem as (index + 1) tail htail rest
    rw [List.append_assoc, List.length_cons, decodeEach, hfirst]
    exact Except.bind_eq_ok.2 ⟨_, rfl, Except.bind_eq_ok.2 ⟨_, hrest, rfl⟩⟩

/-- **Re-encoding lifts to runs of items.** -/
theorem reencodes_each {enc : Nat → β → Except ε (List σ)}
    {dec : Nat → List σ → Except ε (β × List σ)}
    (hitem : ∀ index, Reencodes (enc index) (dec index)) :
    ∀ (count index : Nat), Reencodes (encodeEach enc index) (decodeEach dec count index)
  | 0, _, input, bs, rest, h => by cases h; exact ⟨[], rfl, rfl⟩
  | count + 1, index, input, bs, rest, h => by
    obtain ⟨b, bs', input', hb, hbs, rfl⟩ := decodeEach_succ h
    obtain ⟨head, hhead, rfl⟩ := hitem index input b input' hb
    obtain ⟨tail, htail, rfl⟩ := reencodes_each hitem count (index + 1) input' bs' rest hbs
    refine ⟨head ++ tail, ?_, (List.append_assoc ..).symm⟩
    exact Except.bind_eq_ok.2 ⟨head, hhead, Except.bind_eq_ok.2 ⟨tail, htail, rfl⟩⟩

/-- Every chunk is at least one symbol long, so a run has at most as many items as symbols. -/
theorem length_le_encodeEach {enc : Nat → α → Except ε (List σ)}
    (hpos : ∀ index a chunk, enc index a = .ok chunk → 0 < chunk.length) :
    ∀ {as : List α} {index : Nat} {bytes : List σ}, encodeEach enc index as = .ok bytes →
      as.length ≤ bytes.length
  | [], _, _, _ => Nat.zero_le _
  | a :: as, index, bytes, h => by
    obtain ⟨head, tail, hhead, htail, rfl⟩ := encodeEach_cons h
    have h1 := hpos index a head hhead
    have h2 := length_le_encodeEach hpos htail
    rw [List.length_cons, List.length_append]
    omega

/-- **A run is read back item by item**, when every item short enough to occur in it is. -/
theorem decodeEach_encodeEach {enc : Nat → α → Except ε (List σ)}
    (dec : Nat → List σ → Except ε (β × List σ)) (R : α → β → Prop) (bound : Nat) :
    ∀ {as : List α} {index : Nat} {bytes : List σ},
      (∀ a ∈ as, ∀ index chunk, enc index a = .ok chunk → chunk.length ≤ bound →
        ∃ b, R a b ∧ ∀ index' rest, dec index' (chunk ++ rest) = .ok (b, rest)) →
      encodeEach enc index as = .ok bytes → bytes.length ≤ bound → ∃ bs, List.Forall₂ R as bs ∧
        ∀ index' rest, decodeEach dec as.length index' (bytes ++ rest) = .ok (bs, rest)
  | [], _, _, _, h, _ => by
    cases h
    exact ⟨[], .nil, fun _ _ => rfl⟩
  | a :: as, index, bytes, hitem, h, hbound => by
    obtain ⟨head, tail, hhead, htail, rfl⟩ := encodeEach_cons h
    rw [List.length_append] at hbound
    obtain ⟨b, hR, hb⟩ := hitem a List.mem_cons_self index head hhead (by omega)
    obtain ⟨bs, hall, hbs⟩ := decodeEach_encodeEach dec R bound
      (fun x hx => hitem x (List.mem_cons_of_mem _ hx)) htail (by omega)
    refine ⟨b :: bs, .cons hR hall, fun index' rest => ?_⟩
    rw [List.append_assoc]
    exact Except.bind_eq_ok.2 ⟨_, hb index' _, Except.bind_eq_ok.2 ⟨_, hbs _ _, rfl⟩⟩

/-- The same for an encoder that accepts everything. -/
theorem decodeEach_flatMap {enc : α → List σ} {dec : Nat → List σ → Except ε (α × List σ)} :
    ∀ {as : List α}, (∀ a ∈ as, ∀ index rest, dec index (enc a ++ rest) = .ok (a, rest)) →
      ∀ index rest, decodeEach dec as.length index (as.flatMap enc ++ rest) = .ok (as, rest)
  | [], _, _, _ => rfl
  | a :: as, hitem, index, rest => by
    have hhead := hitem a List.mem_cons_self index (as.flatMap enc ++ rest)
    have htail := decodeEach_flatMap (fun x hx => hitem x (List.mem_cons_of_mem _ hx))
      (index + 1) rest
    rw [List.flatMap_cons, List.append_assoc]
    exact Except.bind_eq_ok.2 ⟨_, hhead, Except.bind_eq_ok.2 ⟨_, htail, rfl⟩⟩

end Codec
