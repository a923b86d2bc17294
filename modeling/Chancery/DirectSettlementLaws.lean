import Chancery.DirectSettlement
import Chancery.EncoderAgreement

/-!
# Direct settlement instructions

What the builders written by hand accept and what they return, in one form for the three
languages.

* `SpellsKey` — what both checks of an address come to.
* `Position` — what stands at one of the positions of an operation; `mintPositions`,
  `redeemPositions`.
* `DirectOperation.Reads` — the arguments that the texts of an operation denote.
* `Emits`, `RustEmits` — `TypeScript.buildMintDirectInstruction_ok` and so on.
-/

set_option autoImplicit false

namespace Chancery.Integration

/-! ## Keys and their texts -/

/-- The text of a key that is not the default one. -/
def SpellsKey (text : String) : Prop := ∃ key : PublicKey, key ≠ zeroAddress ∧ text = key.toBase58

/-- A decoder that reads texts of nonempty byte strings as base58. -/
def ReadsBase58 (decode : String → Except String Bytes) : Prop :=
  ∀ {text : String} {bytes : Bytes}, bytes ≠ [] →
    (decode text = .ok bytes ↔ decodeBase58 text = .ok bytes)

theorem decodeBase58_nonempty {text : String} {bytes : Bytes} (hne : bytes ≠ [])
    (h : decodeBase58 text = .ok bytes) : text.toList ≠ [] := by
  intro hnil
  rw [String.toList_eq_nil_iff.1 hnil] at h
  cases h
  exact hne rfl

theorem readsBase58_units (stringify : List Nat → String) :
    ReadsBase58 fun text => integrationDecodeUnits stringify (codeUnits text) := by
  intro text bytes hne
  have hagree : codeUnits text ≠ [] →
      (integrationDecodeUnits stringify (codeUnits text)).toOption =
        (decodeBase58 text).toOption := by
    intro hunits
    rw [integrationDecodeUnits_eq stringify hunits, decodeWith_units]
  show integrationDecodeUnits stringify (codeUnits text) = .ok bytes ↔ _
  constructor
  · intro h
    refine Except.ok_of_toOption ?_
    rw [← hagree, h]
    · rfl
    · intro hnil
      rw [hnil] at h
      cases h
  · intro h
    refine Except.ok_of_toOption ?_
    rw [hagree, h]
    · rfl
    · intro hnil
      rw [← decodeWith_units, hnil] at h
      cases h
      exact hne rfl

theorem readsBase58_characters (repr : Char → String) :
    ReadsBase58 (integrationDecodeCharacters repr) := by
  intro text bytes hne
  constructor
  · intro h
    refine Except.ok_of_toOption ?_
    rw [← integrationDecodeCharacters_eq repr, h]
    · rfl
    · intro hnil
      rw [integrationDecodeCharacters, if_pos hnil] at h
      cases h
  · intro h
    refine Except.ok_of_toOption ?_
    rw [integrationDecodeCharacters_eq repr (decodeBase58_nonempty hne h), h]
    rfl

theorem zeroAddress_bytes : zeroAddress.bytes = List.replicate 32 0 := rfl

theorem ne_zeroAddress_iff {key : PublicKey} :
    key ≠ zeroAddress ↔ key.bytes ≠ List.replicate 32 0 := by
  refine not_congr ⟨fun h => by rw [h, zeroAddress_bytes], fun h => ?_⟩
  cases key
  cases h
  rfl

/-- **What both checks of an address come to.** -/
theorem spellsKey_iff {decode : String → Except String Bytes} (hdecode : ReadsBase58 decode)
    {text : String} : SpellsKey text ↔ ∃ decoded, decode text = .ok decoded ∧
      decoded.length = 32 ∧ decoded ≠ List.replicate 32 0 := by
  constructor
  · rintro ⟨key, hzero, rfl⟩
    refine ⟨key.bytes, (hdecode ?_).2 (decodeBase58_encodeBase58 _), key.length_eq,
      ne_zeroAddress_iff.1 hzero⟩
    exact List.ne_nil_of_length_pos (by rw [key.length_eq]; decide)
  · rintro ⟨decoded, hdecoded, hlength, hzero⟩
    have hne : decoded ≠ [] := List.ne_nil_of_length_pos (by omega)
    refine ⟨⟨decoded, hlength⟩, ne_zeroAddress_iff.2 hzero, ?_⟩
    exact (encodeBase58_of_decodeBase58 ((hdecode hne).1 hdecoded)).symm

theorem TypeScript.assertPublicKey_ok {stringify : List Nat → String} {value fieldName : String} :
    TypeScript.assertPublicKey stringify value fieldName false = .ok () ↔ SpellsKey value := by
  rw [spellsKey_iff (readsBase58_units stringify)]
  have hzeros : ∀ decoded : Bytes, decoded.length = 32 →
      (decoded.all (· == 0) = true ↔ decoded = List.replicate 32 0) := by
    intro decoded hlength
    rw [List.eq_replicate_iff, List.all_eq_true]
    simp [hlength]
  constructor
  · intro h
    obtain ⟨decoded, hdecoded, h⟩ := Except.bind_eq_ok.1 h
    obtain ⟨⟨⟩, hlength, hzero⟩ := Except.bind_eq_ok.1 h
    rw [rejectWhen_ok] at hlength hzero
    have hlength := Decidable.not_not.1 hlength
    exact ⟨decoded, hdecoded, hlength, fun heq => hzero ⟨rfl, (hzeros decoded hlength).2 heq⟩⟩
  · rintro ⟨decoded, hdecoded, hlength, hzero⟩
    refine Except.bind_eq_ok.2 ⟨decoded, hdecoded, Except.bind_eq_ok.2 ⟨(), ?_, ?_⟩⟩
    · exact rejectWhen_ok.2 (not_not.2 hlength)
    · exact rejectWhen_ok.2 fun h => hzero ((hzeros decoded hlength).1 h.2)

theorem Python.assertPublicKey_ok {repr : Char → String} {value fieldName : String} :
    Python.assertPublicKey repr value fieldName false = .ok () ↔ SpellsKey value := by
  rw [spellsKey_iff (readsBase58_characters repr)]
  constructor
  · intro h
    obtain ⟨decoded, hdecoded, h⟩ := Except.bind_eq_ok.1 h
    obtain ⟨⟨⟩, hlength, hzero⟩ := Except.bind_eq_ok.1 h
    rw [rejectWhen_ok] at hlength hzero
    exact ⟨decoded, hdecoded, Decidable.not_not.1 hlength, fun heq => hzero ⟨rfl, heq⟩⟩
  · rintro ⟨decoded, hdecoded, hlength, hzero⟩
    refine Except.bind_eq_ok.2 ⟨decoded, hdecoded, Except.bind_eq_ok.2 ⟨(), ?_, ?_⟩⟩
    · exact rejectWhen_ok.2 (not_not.2 hlength)
    · exact rejectWhen_ok.2 fun h => hzero h.2

/-! ## Positions -/

/-- What stands at a position; an optional account may be absent. -/
inductive Position (Address : Type) where
  | required (name : String) (address : Address) (isSigner isWritable : Bool)
  | optional (name : String) (address : Option Address) (isWritable : Bool)

namespace Position

variable {Address : Type}

/-- The account's name. -/
def name : Position Address → String
  | required name _ _ _ => name
  | optional name _ _ => name

def address? : Position Address → Option Address
  | required _ address _ _ => some address
  | optional _ address _ => address

def isSigner : Position Address → Bool
  | required _ _ isSigner _ => isSigner
  | optional _ _ _ => false

def isWritable : Position Address → Bool
  | required _ _ _ isWritable => isWritable
  | optional _ _ isWritable => isWritable

/-- The position over other addresses. -/
def map {Address' : Type} (f : Address → Address') : Position Address → Position Address'
  | required name address isSigner isWritable => required name (f address) isSigner isWritable
  | optional name address isWritable => optional name (address.map f) isWritable

/-- The account of a position; an absent one is the default key. -/
def accountMeta (position : Position PublicKey) : SolanaInstructionAccountMeta :=
  ⟨position.address?.getD zeroAddress, position.isSigner, position.isWritable⟩

/-- The account as the builders write it. -/
def spec (position : Position String) : AccountMetaSpec :=
  ⟨position.name, position.address?.getD defaultPublicKey, position.isSigner,
    position.isWritable⟩

/-- Every address of the position can be read. -/
def Readable (position : Position String) : Prop :=
  ∀ address, position.address? = some address → SpellsKey address

/-- No given address is the zero address. -/
def NonDefault (position : Position PublicKey) : Prop :=
  ∀ address, position.address? = some address → address ≠ zeroAddress

end Position


section

variable {Address : Type}

/-- The policy accounts in instruction order. -/
def policyPositions (policyAccounts : DirectSettlementPolicyAccounts Address) :
    List (Position Address) :=
  [.optional "feePolicy" policyAccounts.feePolicy false,
   .optional "feeRecipientTokenAccount" policyAccounts.feeRecipientTokenAccount true,
   .optional "limitPolicy" policyAccounts.limitPolicy false,
   .optional "hourlyUsageWindow" policyAccounts.hourlyUsageWindow true,
   .optional "dailyUsageWindow" policyAccounts.dailyUsageWindow true,
   .optional "weeklyUsageWindow" policyAccounts.weeklyUsageWindow true,
   .optional "monthlyUsageWindow" policyAccounts.monthlyUsageWindow true,
   .optional "evidencePolicy" policyAccounts.evidencePolicy false,
   .optional "assetLimitPolicy" policyAccounts.assetLimitPolicy false,
   .optional "assetDailyUsageWindow" policyAccounts.assetDailyUsageWindow true,
   .optional "counterpartyLimitPolicy" policyAccounts.counterpartyLimitPolicy false,
   .optional "counterpartyDailyUsageWindow" policyAccounts.counterpartyDailyUsageWindow true]

/-- The accounts of a direct mint in instruction order. -/
def mintPositions (accounts : MintDirectAccounts Address) : List (Position Address) :=
  [.required "moduleActivationState" accounts.moduleActivationState false false,
   .required "chanceryConfig" accounts.chanceryConfig false true,
   .required "eventAuthority" accounts.eventAuthority false false,
   .required "pauseState" accounts.pauseState false false,
   .required "assetConfig" accounts.assetConfig false false,
   .required "pathwayPolicy" accounts.pathwayPolicy false false,
   .required "permissionRecord" accounts.permissionRecord false false,
   .required "sourceAssetTokenAccount" accounts.sourceAssetTokenAccount false true,
   .required "reserveAssetTokenAccount" accounts.reserveAssetTokenAccount false true,
   .required "destinationIssuedTokenAccount" accounts.destinationIssuedTokenAccount false true,
   .required "assetMint" accounts.assetMint false false,
   .required "issuedTokenMint" accounts.issuedTokenMint false true,
   .required "mintAuthorityPda" accounts.mintAuthorityPda false false,
   .required "assetTokenProgram" accounts.assetTokenProgram false false,
   .required "issuedTokenProgram" accounts.issuedTokenProgram false false,
   .required "principal" accounts.principal true false,
   .required "assetPauseState" accounts.assetPauseState false false,
   .required "issuedTokenControl" accounts.issuedTokenControl false false] ++
  policyPositions accounts.policyAccounts

/-- The accounts of a direct redemption in instruction order. -/
def redeemPositions (accounts : RedeemDirectAccounts Address) : List (Position Address) :=
  [.required "moduleActivationState" accounts.moduleActivationState false false,
   .required "chanceryConfig" accounts.chanceryConfig false true,
   .required "eventAuthority" accounts.eventAuthority false false,
   .required "pauseState" accounts.pauseState false false,
   .required "assetConfig" accounts.assetConfig false false,
   .required "pathwayPolicy" accounts.pathwayPolicy false false,
   .required "permissionRecord" accounts.permissionRecord false false,
   .required "sourceIssuedTokenAccount" accounts.sourceIssuedTokenAccount false true,
   .required "reserveAssetTokenAccount" accounts.reserveAssetTokenAccount false true,
   .required "destinationAssetTokenAccount" accounts.destinationAssetTokenAccount false true,
   .required "assetMint" accounts.assetMint false false,
   .required "issuedTokenMint" accounts.issuedTokenMint false true,
   .required "reserveAuthorityPda" accounts.reserveAuthorityPda false false,
   .required "assetTokenProgram" accounts.assetTokenProgram false false,
   .required "issuedTokenProgram" accounts.issuedTokenProgram false false,
   .required "principal" accounts.principal true false,
   .required "assetPauseState" accounts.assetPauseState false false,
   .required "issuedTokenControl" accounts.issuedTokenControl false false] ++
  policyPositions accounts.policyAccounts

end

/-- The policy accounts over other addresses. -/
def DirectSettlementPolicyAccounts.map {Address Address' : Type} (f : Address → Address')
    (accounts : DirectSettlementPolicyAccounts Address) :
    DirectSettlementPolicyAccounts Address' where
  feePolicy := accounts.feePolicy.map f
  feeRecipientTokenAccount := accounts.feeRecipientTokenAccount.map f
  limitPolicy := accounts.limitPolicy.map f
  hourlyUsageWindow := accounts.hourlyUsageWindow.map f
  dailyUsageWindow := accounts.dailyUsageWindow.map f
  weeklyUsageWindow := accounts.weeklyUsageWindow.map f
  monthlyUsageWindow := accounts.monthlyUsageWindow.map f
  evidencePolicy := accounts.evidencePolicy.map f
  assetLimitPolicy := accounts.assetLimitPolicy.map f
  assetDailyUsageWindow := accounts.assetDailyUsageWindow.map f
  counterpartyLimitPolicy := accounts.counterpartyLimitPolicy.map f
  counterpartyDailyUsageWindow := accounts.counterpartyDailyUsageWindow.map f

/-- The accounts over other addresses. -/
def MintDirectAccounts.map {Address Address' : Type} (f : Address → Address')
    (accounts : MintDirectAccounts Address) : MintDirectAccounts Address' where
  moduleActivationState := f accounts.moduleActivationState
  chanceryConfig := f accounts.chanceryConfig
  eventAuthority := f accounts.eventAuthority
  pauseState := f accounts.pauseState
  assetConfig := f accounts.assetConfig
  pathwayPolicy := f accounts.pathwayPolicy
  permissionRecord := f accounts.permissionRecord
  sourceAssetTokenAccount := f accounts.sourceAssetTokenAccount
  reserveAssetTokenAccount := f accounts.reserveAssetTokenAccount
  destinationIssuedTokenAccount := f accounts.destinationIssuedTokenAccount
  assetMint := f accounts.assetMint
  issuedTokenMint := f accounts.issuedTokenMint
  mintAuthorityPda := f accounts.mintAuthorityPda
  assetTokenProgram := f accounts.assetTokenProgram
  issuedTokenProgram := f accounts.issuedTokenProgram
  principal := f accounts.principal
  assetPauseState := f accounts.assetPauseState
  issuedTokenControl := f accounts.issuedTokenControl
  policyAccounts := accounts.policyAccounts.map f

/-- The accounts over other addresses. -/
def RedeemDirectAccounts.map {Address Address' : Type} (f : Address → Address')
    (accounts : RedeemDirectAccounts Address) : RedeemDirectAccounts Address' where
  moduleActivationState := f accounts.moduleActivationState
  chanceryConfig := f accounts.chanceryConfig
  eventAuthority := f accounts.eventAuthority
  pauseState := f accounts.pauseState
  assetConfig := f accounts.assetConfig
  pathwayPolicy := f accounts.pathwayPolicy
  permissionRecord := f accounts.permissionRecord
  sourceIssuedTokenAccount := f accounts.sourceIssuedTokenAccount
  reserveAssetTokenAccount := f accounts.reserveAssetTokenAccount
  destinationAssetTokenAccount := f accounts.destinationAssetTokenAccount
  assetMint := f accounts.assetMint
  issuedTokenMint := f accounts.issuedTokenMint
  reserveAuthorityPda := f accounts.reserveAuthorityPda
  assetTokenProgram := f accounts.assetTokenProgram
  issuedTokenProgram := f accounts.issuedTokenProgram
  principal := f accounts.principal
  assetPauseState := f accounts.assetPauseState
  issuedTokenControl := f accounts.issuedTokenControl
  policyAccounts := accounts.policyAccounts.map f

theorem mintPositions_map {Address Address' : Type} (f : Address → Address')
    (accounts : MintDirectAccounts Address) :
    mintPositions (accounts.map f) = (mintPositions accounts).map (.map f) := rfl

theorem redeemPositions_map {Address Address' : Type} (f : Address → Address')
    (accounts : RedeemDirectAccounts Address) :
    redeemPositions (accounts.map f) = (redeemPositions accounts).map (.map f) := rfl

/-! ## The keys of readable texts -/

/-- The address that a text spells; zero when it spells none. -/
def keyOf (text : String) : PublicKey := (decodePublicKey text).toOption.getD zeroAddress

theorem keyOf_toBase58 (key : PublicKey) : keyOf key.toBase58 = key := by
  rw [keyOf, decodePublicKey_toBase58]
  rfl

theorem SpellsKey.keyOf {text : String} (h : SpellsKey text) :
    Integration.keyOf text ≠ zeroAddress ∧ (Integration.keyOf text).toBase58 = text := by
  obtain ⟨key, hzero, rfl⟩ := h
  rw [keyOf_toBase58]
  exact ⟨hzero, rfl⟩

namespace Position

theorem readable_iff {position : Position PublicKey} :
    (position.map PublicKey.toBase58).Readable ↔ position.NonDefault := by
  have hspells : ∀ {key : PublicKey}, SpellsKey key.toBase58 ↔ key ≠ zeroAddress := by
    intro key
    constructor
    · rintro ⟨other, hzero, htext⟩
      rwa [PublicKey.toBase58_injective htext]
    · exact fun hzero => ⟨key, hzero, rfl⟩
  cases position with
  | required name key isSigner isWritable =>
    simp [Readable, NonDefault, map, address?, hspells]
  | optional name key isWritable =>
    cases key <;> simp [Readable, NonDefault, map, address?, hspells]

theorem defaultPublicKey_eq : zeroAddress.toBase58 = defaultPublicKey := by decide +kernel

/-- The texts of an account and the account itself. -/
theorem spec_map (position : Position PublicKey) :
    (position.map PublicKey.toBase58).spec =
      ⟨position.name, position.accountMeta.address.toBase58, position.accountMeta.isSigner,
        position.accountMeta.isWritable⟩ := by
  cases position with
  | required name key isSigner isWritable => rfl
  | optional name key isWritable =>
    cases key with
    | none => simp [spec, accountMeta, map, address?, isSigner, Position.name,
        Position.isWritable, defaultPublicKey_eq]
    | some key => rfl

end Position

/-! ## Arrays of positions -/

theorem arrayOf_map {α β : Type} {place : α → Except String β} {Accepts : α → Prop}
    {value : α → β} {last : β} {items : List α}
    (h : ∀ item ∈ items, ∀ result,
      place item = .ok result ↔ Accepts item ∧ result = value item) {results : List β} :
    arrayOf (items.map place ++ [.ok last]) = .ok results ↔
      (∀ item ∈ items, Accepts item) ∧ results = items.map value ++ [last] := by
  induction items generalizing results with
  | nil =>
    constructor
    · intro hrun
      cases hrun
      exact ⟨fun item hitem => (nomatch hitem), rfl⟩
    · rintro ⟨-, rfl⟩
      rfl
  | cons item items ih =>
    rw [arrayOf, List.map_cons, List.cons_append, List.mapM_cons]
    have hfirst := h item List.mem_cons_self
    have ih := @ih fun other hother => h other (List.mem_cons_of_mem _ hother)
    constructor
    · intro hrun
      obtain ⟨first, hitem, hrun⟩ := Except.bind_eq_ok.1 hrun
      obtain ⟨rest, hrest, hret⟩ := Except.bind_eq_ok.1 hrun
      cases hret
      obtain ⟨haccepts, rfl⟩ := (hfirst first).1 hitem
      obtain ⟨hall, rfl⟩ := ih.1 hrest
      exact ⟨List.forall_mem_cons.2 ⟨haccepts, hall⟩, rfl⟩
    · rintro ⟨hall, rfl⟩
      obtain ⟨haccepts, hall⟩ := List.forall_mem_cons.1 hall
      exact Except.bind_eq_ok.2 ⟨_, (hfirst _).2 ⟨haccepts, rfl⟩,
        Except.bind_eq_ok.2 ⟨_, ih.2 ⟨hall, rfl⟩, rfl⟩⟩

/-! ## Arguments -/

/-- The arguments that both instructions share. -/
structure SettlementArguments where
  pathwayId : { bytes : Bytes // bytes.length = 32 }
  amount : UInt64
  minimumOutput : UInt64

/-- The data of an instruction. -/
def SettlementArguments.data (discriminator : Bytes) (arguments : SettlementArguments) : Bytes :=
  Rust.encodeDirectArguments discriminator arguments.pathwayId.1 arguments.amount
    arguments.minimumOutput

/-- A text reads as the bytes of a pathway id. -/
def ReadsPathwayId (text : String) (pathwayId : Bytes) : Prop :=
  isPathwayPattern (normalizedPathwayId text) = true ∧
    hexPairs (normalizedPathwayId text).toList = some pathwayId

/-- The digits of a decimal text. -/
def decimalDigits (text : String) : List Nat := text.toList.map fun c => c.toNat - '0'.toNat

/-- An unsigned decimal text and the word it denotes. -/
def ReadsU64 (text : String) (word : UInt64) : Prop :=
  isUnsignedDecimal text = true ∧ decimalValue (decimalDigits text) = word.toNat

/-- **The arguments that the texts of an operation denote.** -/
structure DirectOperation.Reads {Accounts : Type} (operation : DirectOperation Accounts)
    (arguments : SettlementArguments) : Prop where
  pathwayId : ReadsPathwayId operation.pathwayId arguments.pathwayId.1
  amount : ReadsU64 operation.amount arguments.amount
  positive : arguments.amount ≠ 0
  minimumOutput : ReadsU64 operation.minimumOutput arguments.minimumOutput

/-- No amount is too long for `int`. -/
def DirectOperation.Short {Accounts : Type} (operation : DirectOperation Accounts) : Prop :=
  operation.amount.toList.length ≤ pythonMaxStrDigits ∧
    operation.minimumOutput.toList.length ≤ pythonMaxStrDigits

theorem hexPairs_total : ∀ (count : Nat) {cs : List Char}, cs.length = 2 * count →
    (∀ c ∈ cs, (hexDigit c).isSome = true) →
      ∃ bytes, hexPairs cs = some bytes ∧ bytes.length = count
  | 0, cs, hlength, _ => by
    rw [List.length_eq_zero_iff.1 hlength]
    exact ⟨[], rfl, rfl⟩
  | count + 1, high :: low :: cs, hlength, hdigits => by
    obtain ⟨h, hhigh⟩ := Option.isSome_iff_exists.1 (hdigits high (by simp))
    obtain ⟨l, hlow⟩ := Option.isSome_iff_exists.1 (hdigits low (by simp))
    have hrest : cs.length = 2 * count := by simpa [Nat.mul_add] using hlength
    obtain ⟨bytes, hbytes, hcount⟩ := hexPairs_total count hrest
      fun c hc => hdigits c (List.mem_cons_of_mem _ (List.mem_cons_of_mem _ hc))
    refine ⟨UInt8.ofNat (h * 16 + l) :: bytes, ?_, by rw [List.length_cons, hcount]⟩
    rw [hexPairs, hexByte, hhigh, hlow, hbytes]
    rfl

theorem hexPairs_of_pattern {text : String} (h : isPathwayPattern text = true) :
    ∃ bytes, hexPairs text.toList = some bytes ∧ bytes.length = 32 := by
  obtain ⟨hlength, hdigits⟩ := Bool.and_eq_true_iff.1 h
  rw [beq_iff_eq] at hlength
  exact hexPairs_total 32 hlength (List.all_eq_true.1 hdigits)

theorem ReadsPathwayId.length {text : String} {pathwayId : Bytes}
    (h : ReadsPathwayId text pathwayId) : pathwayId.length = 32 := by
  obtain ⟨bytes, hbytes, hlength⟩ := hexPairs_of_pattern h.1
  rw [h.2] at hbytes
  cases hbytes
  exact hlength

theorem TypeScript.parsePathwayId_ok {text : String} {pathwayId : Bytes} :
    TypeScript.parsePathwayId text = .ok pathwayId ↔ ReadsPathwayId text pathwayId := by
  unfold TypeScript.parsePathwayId ReadsPathwayId
  dsimp only
  split
  · rename_i hpattern
    obtain ⟨bytes, hbytes, -⟩ := hexPairs_of_pattern hpattern
    simp [hpattern, hbytes]
  · rename_i hpattern
    simp [hpattern]

theorem Python.parsePathwayId_ok {text : String} {pathwayId : Bytes} :
    Python.parsePathwayId text = .ok pathwayId ↔ ReadsPathwayId text pathwayId := by
  unfold Python.parsePathwayId ReadsPathwayId
  dsimp only
  split
  · rename_i hpattern
    obtain ⟨bytes, hbytes, -⟩ := hexPairs_of_pattern hpattern
    simp [hpattern, hbytes, pythonFromHex, hexPairs_spaced hbytes]
  · rename_i hpattern
    simp [hpattern]

/-- What a range check lets through of a number that has been read. -/
theorem inRange_ok {value : Nat} {n : Int} {allowZero : Bool} {message : String} :
    (if (allowZero = false ∧ (value : Int) = 0) ∨ maximumU64 < value then .error message
      else .ok (value : Int) : Except String Int) = .ok n ↔
      ∃ word : UInt64, value = word.toNat ∧ (allowZero = false → word ≠ 0) ∧
        n = word.toNat := by
  constructor
  · intro h
    split at h
    · cases h
    · rename_i hrange
      cases h
      rw [not_or] at hrange
      have hlt : value < 2 ^ 64 := by
        have := hrange.2
        unfold maximumU64 at this
        omega
      have hword : (UInt64.ofNat value).toNat = value := UInt64.toNat_ofNat_of_lt' hlt
      refine ⟨UInt64.ofNat value, hword.symm, fun hallow hzero => ?_, by rw [hword]⟩
      rw [hzero] at hword
      exact hrange.1 ⟨hallow, by rw [← hword]; rfl⟩
  · rintro ⟨word, rfl, hzero, rfl⟩
    refine if_neg ?_
    rintro (⟨hallow, heq⟩ | hlarge)
    · exact hzero hallow (UInt64.toNat_inj.1 (by simpa using heq))
    · have := word.toNat_lt
      unfold maximumU64 at hlarge
      omega

theorem pythonInt_unsigned {text : String} (h : isUnsignedDecimal text = true) :
    pythonInt text = if pythonMaxStrDigits < text.toList.length then
      .error s!"Exceeds the limit ({pythonMaxStrDigits} digits) for integer string conversion"
    else .ok (decimalValue (decimalDigits text)) := by
  obtain ⟨-, hdigits⟩ := Bool.and_eq_true_iff.1 h
  unfold pythonInt decimalDigits
  cases hlist : text.toList with
  | nil => rfl
  | cons c cs =>
    have hminus : c ≠ '-' := by
      rintro rfl
      rw [hlist] at hdigits
      exact absurd (List.all_eq_true.1 hdigits '-' List.mem_cons_self) (by decide)
    rw [hlist] at hdigits
    split
    rename_i negative digits hread
    split at hread
    · rename_i heq
      exact absurd (List.cons.inj heq).1 hminus
    · cases hread
      rw [mapM_unicodeDecimal hdigits]
      dsimp only
      rw [List.length_map]
      rfl

theorem TypeScript.parseUnsignedU64_ok {value fieldName : String} {allowZero : Bool} {n : Int} :
    TypeScript.parseUnsignedU64 value fieldName allowZero = .ok n ↔
      ∃ word, ReadsU64 value word ∧ (allowZero = false → word ≠ 0) ∧ n = word.toNat := by
  unfold TypeScript.parseUnsignedU64 ReadsU64
  by_cases hdecimal : isUnsignedDecimal value = true
  · rw [if_neg (by simp [hdecimal])]
    simp only [hdecimal, true_and]
    exact inRange_ok
  · simp [hdecimal]

theorem Python.parseUnsignedU64_ok {value fieldName : String} {allowZero : Bool} {n : Int} :
    Python.parseUnsignedU64 value fieldName allowZero = .ok n ↔
      value.toList.length ≤ pythonMaxStrDigits ∧
        ∃ word, ReadsU64 value word ∧ (allowZero = false → word ≠ 0) ∧ n = word.toNat := by
  unfold Python.parseUnsignedU64 ReadsU64
  by_cases hdecimal : isUnsignedDecimal value = true
  · rw [if_neg (by simp [hdecimal]), pythonInt_unsigned hdecimal]
    simp only [hdecimal, true_and]
    by_cases hlength : pythonMaxStrDigits < value.toList.length
    · rw [if_pos hlength]
      exact ⟨fun h => (nomatch h), fun h => absurd h.1 (Nat.not_le.2 hlength)⟩
    · rw [if_neg hlength, and_iff_right (Nat.not_lt.1 hlength)]
      exact inRange_ok
  · simp [hdecimal]

/-- The bytes written so far, and the zeros that are left of the buffer. -/
theorem setBytes_zeros {written source : Bytes} {offset count : Nat}
    (hoffset : offset = written.length) :
    TypeScript.setBytes (written ++ List.replicate count 0) offset source =
      written ++ source ++ List.replicate (count - source.length) 0 := by
  subst hoffset
  rw [TypeScript.setBytes, List.take_left, List.drop_append, List.drop_eq_nil_of_le (by omega),
    List.nil_append, Nat.add_sub_cancel_left, List.drop_replicate]

section

variable {discriminator : Bytes} {Accounts : Type} {operation : DirectOperation Accounts}
  {data : Bytes}

theorem TypeScript.encodeDirectSettlementData_ok (hdiscriminator : discriminator.length = 2) :
    TypeScript.encodeDirectSettlementData discriminator operation.pathwayId operation.amount
        operation.minimumOutput = .ok data ↔
      ∃ arguments, operation.Reads arguments ∧ data = arguments.data discriminator := by
  have hbuffer : ∀ arguments : SettlementArguments,
      TypeScript.setBytes (TypeScript.setBytes (TypeScript.setBytes (TypeScript.setBytes
        (List.replicate 50 0) 0 discriminator) 2 arguments.pathwayId.1) 34
          (LittleEndian.toBytes 8 arguments.amount.toNat)) 42
            (LittleEndian.toBytes 8 arguments.minimumOutput.toNat) =
        arguments.data discriminator := by
    intro arguments
    have hpathway := arguments.pathwayId.2
    rw [← List.nil_append (List.replicate 50 (0 : UInt8)), setBytes_zeros List.length_nil.symm,
      setBytes_zeros (by simp [hdiscriminator]), setBytes_zeros (by simp [hdiscriminator, hpathway]),
      setBytes_zeros (by simp [hdiscriminator, hpathway])]
    simp [SettlementArguments.data, Rust.encodeDirectArguments, hdiscriminator, hpathway]
  constructor
  · intro h
    obtain ⟨pathwayBytes, hpathway, h⟩ := Except.bind_eq_ok.1 h
    obtain ⟨amountValue, hamount, h⟩ := Except.bind_eq_ok.1 h
    obtain ⟨minimumValue, hminimum, hret⟩ := Except.bind_eq_ok.1 h
    rw [TypeScript.parsePathwayId_ok] at hpathway
    obtain ⟨amount, hreads, hpositive, rfl⟩ := TypeScript.parseUnsignedU64_ok.1 hamount
    obtain ⟨minimum, hreadsMinimum, -, rfl⟩ := TypeScript.parseUnsignedU64_ok.1 hminimum
    cases hret
    exact ⟨⟨⟨pathwayBytes, hpathway.length⟩, amount, minimum⟩,
      ⟨hpathway, hreads, hpositive rfl, hreadsMinimum⟩,
      hbuffer ⟨⟨pathwayBytes, hpathway.length⟩, amount, minimum⟩⟩
  · rintro ⟨arguments, hreads, rfl⟩
    refine Except.bind_eq_ok.2 ⟨_, TypeScript.parsePathwayId_ok.2 hreads.pathwayId,
      Except.bind_eq_ok.2 ⟨_, TypeScript.parseUnsignedU64_ok.2
        ⟨_, hreads.amount, fun _ => hreads.positive, rfl⟩,
      Except.bind_eq_ok.2 ⟨_, TypeScript.parseUnsignedU64_ok.2
        ⟨_, hreads.minimumOutput, fun h => (nomatch h), rfl⟩, ?_⟩⟩⟩
    exact congrArg Except.ok (hbuffer arguments)

theorem Python.encodeDirectSettlementData_ok :
    Python.encodeDirectSettlementData discriminator operation.pathwayId operation.amount
        operation.minimumOutput = .ok data ↔
      operation.Short ∧
        ∃ arguments, operation.Reads arguments ∧ data = arguments.data discriminator := by
  constructor
  · intro h
    obtain ⟨pathwayBytes, hpathway, h⟩ := Except.bind_eq_ok.1 h
    obtain ⟨amountValue, hamount, h⟩ := Except.bind_eq_ok.1 h
    obtain ⟨minimumValue, hminimum, hret⟩ := Except.bind_eq_ok.1 h
    rw [Python.parsePathwayId_ok] at hpathway
    obtain ⟨hshort, amount, hreads, hpositive, rfl⟩ := Python.parseUnsignedU64_ok.1 hamount
    obtain ⟨hshort', minimum, hreadsMinimum, -, rfl⟩ := Python.parseUnsignedU64_ok.1 hminimum
    cases hret
    exact ⟨⟨hshort, hshort'⟩, ⟨⟨pathwayBytes, hpathway.length⟩, amount, minimum⟩,
      ⟨hpathway, hreads, hpositive rfl, hreadsMinimum⟩, rfl⟩
  · rintro ⟨hshort, arguments, hreads, rfl⟩
    exact Except.bind_eq_ok.2 ⟨_, Python.parsePathwayId_ok.2 hreads.pathwayId,
      Except.bind_eq_ok.2 ⟨_, Python.parseUnsignedU64_ok.2
        ⟨hshort.1, _, hreads.amount, fun _ => hreads.positive, rfl⟩,
      Except.bind_eq_ok.2 ⟨_, Python.parseUnsignedU64_ok.2
        ⟨hshort.2, _, hreads.minimumOutput, fun h => (nomatch h), rfl⟩, rfl⟩⟩⟩

end

/-! ## What the builders accept -/

/-- A position as the TypeScript builder places it. -/
def TypeScript.place (stringify : List Nat → String) :
    Position String → Except String AccountMetaSpec
  | .required name address _ isWritable =>
    TypeScript.requiredAccount stringify name address isWritable
  | .optional name address isWritable =>
    TypeScript.optionalAccount stringify name address isWritable

/-- A position as the Python builder places it. -/
def Python.place (repr : Char → String) : Position String → Except String AccountMetaSpec
  | .required name address isSigner isWritable =>
    Python.requiredAccount repr name address isSigner isWritable
  | .optional name address isWritable => Python.optionalAccount repr name address isWritable

/-- A position as the Rust builder places it. -/
def Rust.place : Position PublicKey → Except String SolanaInstructionAccountMeta
  | .required name address isSigner true =>
    Rust.requiredWritable ("accounts." ++ name) address isSigner
  | .required name address isSigner false =>
    Rust.requiredReadonly ("accounts." ++ name) address isSigner
  | .optional name address true =>
    Rust.optionalWritable ("accounts.policyAccounts." ++ name) address
  | .optional name address false =>
    Rust.optionalReadonly ("accounts.policyAccounts." ++ name) address

/-- TypeScript takes the signer from the name of the account. -/
def Position.SignsByName {Address : Type} : Position Address → Prop
  | .required name _ isSigner _ => isSigner = (name == "principal")
  | .optional .. => True

theorem checked_ok {α : Type} {check : Except String Unit} {value result : α} :
    (do check; return value) = .ok result ↔ check = .ok () ∧ result = value := by
  cases check <;> simp [eq_comm]

namespace Position

theorem readable_required {name address : String} {isSigner isWritable : Bool} :
    (required name address isSigner isWritable).Readable ↔ SpellsKey address := by
  simp [Readable, address?]

theorem readable_optional {name address : String} {isWritable : Bool} :
    (optional name (some address) isWritable).Readable ↔ SpellsKey address := by
  simp [Readable, address?]

theorem readable_absent {name : String} {isWritable : Bool} :
    (optional name (none : Option String) isWritable).Readable :=
  fun _ h => nomatch h

end Position

theorem TypeScript.place_ok {stringify : List Nat → String} {position : Position String}
    (hsigner : position.SignsByName) {result : AccountMetaSpec} :
    TypeScript.place stringify position = .ok result ↔
      position.Readable ∧ result = position.spec := by
  cases position with
  | required name address isSigner isWritable =>
    cases hsigner
    rw [Position.readable_required]
    exact checked_ok.trans (and_congr_left' TypeScript.assertPublicKey_ok)
  | optional name address isWritable =>
    cases address with
    | none =>
      rw [and_iff_right Position.readable_absent]
      exact ⟨fun h => (Except.ok.inj h).symm, fun h => congrArg Except.ok h.symm⟩
    | some address =>
      rw [Position.readable_optional]
      exact checked_ok.trans (and_congr_left' TypeScript.assertPublicKey_ok)

theorem Python.place_ok {repr : Char → String} {position : Position String}
    {result : AccountMetaSpec} :
    Python.place repr position = .ok result ↔ position.Readable ∧ result = position.spec := by
  cases position with
  | required name address isSigner isWritable =>
    rw [Position.readable_required]
    exact checked_ok.trans (and_congr_left' Python.assertPublicKey_ok)
  | optional name address isWritable =>
    cases address with
    | none =>
      rw [and_iff_right Position.readable_absent]
      exact ⟨fun h => (Except.ok.inj h).symm, fun h => congrArg Except.ok h.symm⟩
    | some address =>
      rw [Position.readable_optional]
      exact checked_ok.trans (and_congr_left' Python.assertPublicKey_ok)

theorem Rust.validateNonDefault_ok {fieldName : String} {address : PublicKey} :
    Rust.validateNonDefault fieldName address = .ok () ↔ address ≠ zeroAddress := rejectWhen_ok

theorem Rust.validateOptional_ok {fieldName : String} {address : Option PublicKey} :
    Rust.validateOptional fieldName address = .ok () ↔
      ∀ key, address = some key → key ≠ zeroAddress := by
  cases address with
  | none => simp [Rust.validateOptional]
  | some key => simp [Rust.validateOptional, Rust.validateNonDefault_ok]

theorem Rust.place_ok {position : Position PublicKey}
    {result : SolanaInstructionAccountMeta} :
    Rust.place position = .ok result ↔
      position.NonDefault ∧ result = position.accountMeta := by
  cases position with
  | required name address isSigner isWritable =>
    have hnon : (Position.required name address isSigner isWritable).NonDefault ↔
        address ≠ zeroAddress := by simp [Position.NonDefault, Position.address?]
    rw [hnon]
    cases isWritable <;>
      exact checked_ok.trans (and_congr_left' Rust.validateNonDefault_ok)
  | optional name address isWritable =>
    cases isWritable <;>
      exact checked_ok.trans (and_congr_left' Rust.validateOptional_ok)

/-! ## Positions of the builders -/

section

variable (stringify : List Nat → String) (repr : Char → String)

theorem TypeScript.mintAccountMetas_eq (accounts : MintDirectAccounts String) :
    TypeScript.mintAccountMetas stringify accounts ++
        TypeScript.policyAccountMetas stringify accounts.policyAccounts =
      (mintPositions accounts).map (TypeScript.place stringify) := rfl

theorem TypeScript.redeemAccountMetas_eq (accounts : RedeemDirectAccounts String) :
    TypeScript.redeemAccountMetas stringify accounts ++
        TypeScript.policyAccountMetas stringify accounts.policyAccounts =
      (redeemPositions accounts).map (TypeScript.place stringify) := rfl

theorem Python.mintAccountMetas_eq (accounts : MintDirectAccounts String) :
    Python.mintAccountMetas repr accounts ++
        Python.policyAccountMetas repr accounts.policyAccounts =
      (mintPositions accounts).map (Python.place repr) := rfl

theorem Python.redeemAccountMetas_eq (accounts : RedeemDirectAccounts String) :
    Python.redeemAccountMetas repr accounts ++
        Python.policyAccountMetas repr accounts.policyAccounts =
      (redeemPositions accounts).map (Python.place repr) := rfl

end

theorem Rust.policyAccountMetas_eq (policyAccounts : DirectSettlementPolicyAccounts PublicKey) :
    Rust.policyAccountMetas policyAccounts = (policyPositions policyAccounts).map Rust.place := by
  simp [Rust.policyAccountMetas, policyPositions, Rust.place]

theorem Rust.mintAccountMetas_eq (accounts : MintDirectAccounts PublicKey) :
    Rust.mintAccountMetas accounts ++ Rust.policyAccountMetas accounts.policyAccounts =
      (mintPositions accounts).map Rust.place := by
  rw [Rust.policyAccountMetas_eq, mintPositions, List.map_append]
  simp [Rust.mintAccountMetas, Rust.place]

theorem Rust.redeemAccountMetas_eq (accounts : RedeemDirectAccounts PublicKey) :
    Rust.redeemAccountMetas accounts ++ Rust.policyAccountMetas accounts.policyAccounts =
      (redeemPositions accounts).map Rust.place := by
  rw [Rust.policyAccountMetas_eq, redeemPositions, List.map_append]
  simp [Rust.redeemAccountMetas, Rust.place]

theorem mintPositions_signsByName {Address : Type} (accounts : MintDirectAccounts Address) :
    ∀ position ∈ mintPositions accounts, position.SignsByName := by
  simp [mintPositions, policyPositions, Position.SignsByName]

theorem redeemPositions_signsByName {Address : Type} (accounts : RedeemDirectAccounts Address) :
    ∀ position ∈ redeemPositions accounts, position.SignsByName := by
  simp [redeemPositions, policyPositions, Position.SignsByName]

/-! ## What the builders return -/

/-- **A program of texts is emitted** for an operation whose texts denote something. -/
def Emits {Accounts : Type} (selected : TargetVariable) (discriminator : Bytes)
    (positions : List (Position String)) (operation : DirectOperation Accounts)
    (spec : InstructionSpec) : Prop :=
  ∃ programId arguments, selectedProgramText selected = .ok programId ∧
    (∀ position ∈ positions, position.Readable) ∧ operation.Reads arguments ∧
    spec = ⟨programId, positions.map Position.spec ++ [⟨"eventProgram", programId, false, false⟩],
      arguments.data discriminator⟩

section

variable {Accounts : Type} {selected : TargetVariable} {operationName : String}
  {discriminator : Bytes} {operation : DirectOperation Accounts} {spec : InstructionSpec}
  {positions : List (Position String)} (hcount : positions.length = 30)

include hcount

theorem TypeScript.buildInstruction_ok {stringify : List Nat → String}
    (hdiscriminator : discriminator.length = 2)
    (hsigners : ∀ position ∈ positions, position.SignsByName) :
    TypeScript.buildInstruction operationName discriminator
        (positions.map (TypeScript.place stringify)) selected operation = .ok spec ↔
      Emits selected discriminator positions operation spec := by
  have hplace : ∀ position ∈ positions, ∀ result,
      TypeScript.place stringify position = .ok result ↔
        position.Readable ∧ result = position.spec :=
    fun position hposition _ => TypeScript.place_ok (hsigners position hposition)
  constructor
  · intro h
    obtain ⟨programId, hprogram, h⟩ := Except.bind_eq_ok.1 h
    obtain ⟨metas, hmetas, h⟩ := Except.bind_eq_ok.1 h
    obtain ⟨-, -, h⟩ := Except.bind_eq_ok.1 h
    obtain ⟨data, hdata, hret⟩ := Except.bind_eq_ok.1 h
    cases hret
    obtain ⟨hreadable, rfl⟩ := (arrayOf_map hplace).1 hmetas
    obtain ⟨arguments, hreads, rfl⟩ :=
      (TypeScript.encodeDirectSettlementData_ok hdiscriminator).1 hdata
    exact ⟨programId, arguments, hprogram, hreadable, hreads, rfl⟩
  · rintro ⟨programId, arguments, hprogram, hreadable, hreads, rfl⟩
    refine Except.bind_eq_ok.2 ⟨programId, hprogram, Except.bind_eq_ok.2 ⟨_,
      (arrayOf_map hplace).2 ⟨hreadable, rfl⟩, Except.bind_eq_ok.2 ⟨(), rejectWhen_ok.2 ?_,
      Except.bind_eq_ok.2 ⟨_, (TypeScript.encodeDirectSettlementData_ok hdiscriminator).2
        ⟨arguments, hreads, rfl⟩, rfl⟩⟩⟩⟩
    simp [hcount]

theorem Python.buildInstruction_ok {repr : Char → String} :
    Python.buildInstruction operationName discriminator
        (positions.map (Python.place repr)) selected operation = .ok spec ↔
      operation.Short ∧ Emits selected discriminator positions operation spec := by
  have hplace : ∀ position ∈ positions, ∀ result,
      Python.place repr position = .ok result ↔ position.Readable ∧ result = position.spec :=
    fun _ _ _ => Python.place_ok
  constructor
  · intro h
    obtain ⟨programId, hprogram, h⟩ := Except.bind_eq_ok.1 h
    obtain ⟨metas, hmetas, h⟩ := Except.bind_eq_ok.1 h
    obtain ⟨-, -, h⟩ := Except.bind_eq_ok.1 h
    obtain ⟨data, hdata, hret⟩ := Except.bind_eq_ok.1 h
    cases hret
    obtain ⟨hreadable, rfl⟩ := (arrayOf_map hplace).1 hmetas
    obtain ⟨hshort, arguments, hreads, rfl⟩ := Python.encodeDirectSettlementData_ok.1 hdata
    exact ⟨hshort, programId, arguments, hprogram, hreadable, hreads, rfl⟩
  · rintro ⟨hshort, programId, arguments, hprogram, hreadable, hreads, rfl⟩
    refine Except.bind_eq_ok.2 ⟨programId, hprogram, Except.bind_eq_ok.2 ⟨_,
      (arrayOf_map hplace).2 ⟨hreadable, rfl⟩, Except.bind_eq_ok.2 ⟨(), rejectWhen_ok.2 ?_,
      Except.bind_eq_ok.2 ⟨_, Python.encodeDirectSettlementData_ok.2
        ⟨hshort, arguments, hreads, rfl⟩, rfl⟩⟩⟩⟩
    simp [hcount]

end

/-- **A program of keys is emitted** for accounts that are not the default key. -/
def RustEmits (selected : TargetVariable) (discriminator : Bytes)
    (positions : List (Position PublicKey)) (arguments : SettlementArguments)
    (instruction : SolanaInstruction) : Prop :=
  ∃ programId, Rust.selectedProgramId selected = .ok programId ∧
    (∀ position ∈ positions, position.NonDefault) ∧ arguments.amount ≠ 0 ∧
    instruction = ⟨programId, positions.map Position.accountMeta ++ [⟨programId, false, false⟩],
      arguments.data discriminator⟩

theorem Rust.buildInstruction_ok {operationName : String} {discriminator : Bytes}
    {positions : List (Position PublicKey)} (hcount : positions.length = 30)
    {selected : TargetVariable} (arguments : SettlementArguments)
    {instruction : SolanaInstruction} :
    Rust.buildInstruction operationName discriminator (positions.map Rust.place) selected
        arguments.pathwayId.1 arguments.amount arguments.minimumOutput = .ok instruction ↔
      RustEmits selected discriminator positions arguments instruction := by
  have hplace : ∀ position ∈ positions, ∀ result,
      Rust.place position = .ok result ↔ position.NonDefault ∧ result = position.accountMeta :=
    fun _ _ _ => Rust.place_ok
  unfold Rust.buildInstruction
  cases hprogram : Rust.selectedProgramId selected with
  | error message =>
    constructor
    · intro h
      obtain ⟨_, _, h⟩ := Except.bind_eq_ok.1 h
      obtain ⟨_, _, h⟩ := Except.bind_eq_ok.1 h
      obtain ⟨_, _, h⟩ := Except.bind_eq_ok.1 h
      cases h
    · rintro ⟨programId, hother, -⟩
      rw [hprogram] at hother
      cases hother
  | ok programId =>
    constructor
    · intro h
      obtain ⟨_, hamount, h⟩ := Except.bind_eq_ok.1 h
      obtain ⟨metas, hmetas, h⟩ := Except.bind_eq_ok.1 h
      obtain ⟨_, _, h⟩ := Except.bind_eq_ok.1 h
      cases h
      obtain ⟨hnon, rfl⟩ := (arrayOf_map hplace).1 hmetas
      exact ⟨programId, hprogram, hnon, rejectWhen_ok.1 hamount, rfl⟩
    · rintro ⟨other, hother, hnon, hamount, rfl⟩
      rw [hprogram] at hother
      cases hother
      refine Except.bind_eq_ok.2 ⟨(), rejectWhen_ok.2 hamount, Except.bind_eq_ok.2 ⟨_,
        (arrayOf_map hplace).2 ⟨hnon, rfl⟩, Except.bind_eq_ok.2 ⟨(), rejectWhen_ok.2 ?_, rfl⟩⟩⟩
      simp [hcount]

/-! ### The six builders -/

section

variable {stringify : List Nat → String} {repr : Char → String} {selected : TargetVariable}
  {spec : InstructionSpec}

theorem TypeScript.buildMintDirectInstruction_ok {operation : MintDirectOperationInput} :
    TypeScript.buildMintDirectInstruction stringify selected operation = .ok spec ↔
      Emits selected [4, 1] (mintPositions operation.accounts) operation spec := by
  rw [TypeScript.buildMintDirectInstruction, TypeScript.mintAccountMetas_eq]
  exact TypeScript.buildInstruction_ok rfl rfl (mintPositions_signsByName _)

theorem TypeScript.buildRedeemDirectInstruction_ok {operation : RedeemDirectOperationInput} :
    TypeScript.buildRedeemDirectInstruction stringify selected operation = .ok spec ↔
      Emits selected [4, 2] (redeemPositions operation.accounts) operation spec := by
  rw [TypeScript.buildRedeemDirectInstruction, TypeScript.redeemAccountMetas_eq]
  exact TypeScript.buildInstruction_ok rfl rfl (redeemPositions_signsByName _)

theorem Python.buildMintDirectInstruction_ok {operation : MintDirectOperationInput} :
    Python.buildMintDirectInstruction repr selected operation = .ok spec ↔
      operation.Short ∧ Emits selected [4, 1] (mintPositions operation.accounts) operation spec := by
  rw [Python.buildMintDirectInstruction, Python.mintAccountMetas_eq]
  exact Python.buildInstruction_ok rfl

theorem Python.buildRedeemDirectInstruction_ok {operation : RedeemDirectOperationInput} :
    Python.buildRedeemDirectInstruction repr selected operation = .ok spec ↔
      operation.Short ∧
        Emits selected [4, 2] (redeemPositions operation.accounts) operation spec := by
  rw [Python.buildRedeemDirectInstruction, Python.redeemAccountMetas_eq]
  exact Python.buildInstruction_ok rfl

end

section

variable {selected : TargetVariable} {instruction : SolanaInstruction}

/-- A mint's arguments, in the shared form. -/
def Rust.MintDirectArguments.settlement (arguments : Rust.MintDirectArguments) :
    SettlementArguments :=
  ⟨arguments.pathwayId, arguments.assetAmount, arguments.minimumIssuedTokenAmount⟩

/-- A redemption's arguments, in the shared form. -/
def Rust.RedeemDirectArguments.settlement (arguments : Rust.RedeemDirectArguments) :
    SettlementArguments :=
  ⟨arguments.pathwayId, arguments.issuedTokenAmount, arguments.minimumAssetAmount⟩

theorem Rust.buildMintDirectInstruction_ok {accounts : MintDirectAccounts PublicKey}
    {arguments : Rust.MintDirectArguments} :
    Rust.buildMintDirectInstruction selected accounts arguments = .ok instruction ↔
      RustEmits selected [4, 1] (mintPositions accounts) arguments.settlement instruction := by
  rw [Rust.buildMintDirectInstruction, Rust.mintAccountMetas_eq]
  exact Rust.buildInstruction_ok rfl arguments.settlement

theorem Rust.buildRedeemDirectInstruction_ok {accounts : RedeemDirectAccounts PublicKey}
    {arguments : Rust.RedeemDirectArguments} :
    Rust.buildRedeemDirectInstruction selected accounts arguments = .ok instruction ↔
      RustEmits selected [4, 2] (redeemPositions accounts) arguments.settlement instruction := by
  rw [Rust.buildRedeemDirectInstruction, Rust.redeemAccountMetas_eq]
  exact Rust.buildInstruction_ok rfl arguments.settlement

end

end Chancery.Integration
