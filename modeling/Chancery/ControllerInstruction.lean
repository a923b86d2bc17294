import Chancery.Lib.Masks
import Chancery.MessageCompilers
import Chancery.ProgramAddressLaws
import Chancery.SolanaAccounts
import Chancery.Target

/-!
# Controller instructions

`integration/devnet/instructions/ExecuteChancery.ts`: the relay of an instruction through the
controller, whose authorities are derived addresses that only the controller signs for.

* `controllerAuthority`, `controllerAuthority_ok` — the authority of a role.
* `scanRole`, `ScanOf` — the loop over the roles and what it has found.
* `wrapAccount` — one account of the result.
* `executeChanceryInstruction`, `Wraps`, `executeChanceryInstruction_exact`.
-/

set_option autoImplicit false

namespace Chancery

open Masks

/-- A `SolanaInstruction`, with the texts of its addresses. -/
structure InstructionText where
  programAddress : String
  accounts : List AccountMetaInput
  data : Bytes

/-! ## The authorities -/

/-- `5Hk5sfd1LzMZP5bcEceep1bqnQvBwxBUXxqPAVkWNr5t`. -/
def faucetProgramAddress : PublicKey where
  bytes :=
    [63, 184, 193, 131, 163, 252, 208, 148, 52, 219, 35, 242, 148, 29, 127, 180, 207, 170, 159,
     35, 255, 61, 130, 254, 140, 241, 144, 31, 124, 122, 38, 119]
  length_eq := rfl

/-- The roles of the controller. -/
abbrev ControllerRole := Fin 5

def controllerRoles : List ControllerRole := [0, 1, 2, 3, 4]

/-- The seeds of a role's authority. -/
def controllerAuthoritySeeds (role : ControllerRole) : List Bytes :=
  [textSeed "chancery-authority", [UInt8.ofNat role]]

/-- The authority of a role. -/
def controllerAuthority (role : ControllerRole) : Except String String := do
  let result ← findProgramAddress platformSha256 (controllerAuthoritySeeds role)
    faucetProgramAddress
  return result.address.toBase58

/-! ## The relay -/

/-- The roles that an instruction's signers play. -/
structure RoleScan where
  roleMask : Nat
  authorities : List String

/-- One role, looked for among the accounts. -/
def scanRole (accounts : List AccountMetaInput) (state : RoleScan) (role : ControllerRole) :
    Except String RoleScan := do
  let authority ← controllerAuthority role
  if accounts.any fun account => account.isSigner && account.address == authority then
    return ⟨state.roleMask ||| 1 <<< role.val, state.authorities ++ [authority]⟩
  else return state

/-- An account of the wrapped instruction; authorities do not sign. -/
def wrapAccount (authorities : List String) (normalizedCaller : String)
    (account : AccountMetaInput) : Except String AccountMetaInput :=
  if account.isSigner && !authorities.contains account.address &&
      account.address != normalizedCaller then
    .error ("Additional signer required: " ++ account.address)
  else .ok { account with isSigner := account.isSigner && !authorities.contains account.address }

/-- The controller's instruction around one of the program. -/
def executeChanceryInstruction (caller : String) (instruction : InstructionText) :
    Except String InstructionText := do
  if instruction.programAddress ≠ chanceryDevnetProgramAddress.toBase58 ∨
      instruction.data.length < 2 then
    .error "Controller instructions must target the configured devnet Chancery program"
  else
    let normalizedCaller ← normalizePublicKey caller
    let scan ← controllerRoles.foldlM (scanRole instruction.accounts) ⟨0, []⟩
    if scan.roleMask = 0 then
      .error "Chancery administration requires at least one controller authority signer"
    else
      let accounts ← instruction.accounts.mapM (wrapAccount scan.authorities normalizedCaller)
      return {
        programAddress := faucetProgramAddress.toBase58
        accounts := ⟨normalizedCaller, true, false⟩ :: ⟨instruction.programAddress, false, false⟩ ::
          accounts
        data := 1 :: UInt8.ofNat scan.roleMask :: instruction.data }

/-! ## What the relay keeps -/

/-- Some account with this address signs. -/
def SignedBy (accounts : List AccountMetaInput) (address : String) : Prop :=
  ∃ account ∈ accounts, account.isSigner = true ∧ account.address = address

/-- The authority of the role signs. -/
def RoleSigns (accounts : List AccountMetaInput) (role : ControllerRole) : Prop :=
  ∃ authority, controllerAuthority role = .ok authority ∧ SignedBy accounts authority

/-- The address is the authority of some role. -/
def IsControllerAuthority (address : String) : Prop :=
  ∃ role, controllerAuthority role = .ok address

/-- What the relay keeps of an instruction, and what it adds. -/
structure Wraps (caller : String) (instruction wrapped : InstructionText) : Prop where
  programAddress : wrapped.programAddress = faucetProgramAddress.toBase58
  header : wrapped.accounts.take 2 =
    [⟨caller, true, false⟩, ⟨instruction.programAddress, false, false⟩]
  accounts : (wrapped.accounts.drop 2).map (fun account => (account.address, account.isWritable)) =
    instruction.accounts.map fun account => (account.address, account.isWritable)
  data : ∃ roleMask : UInt8, wrapped.data = 1 :: roleMask :: instruction.data ∧
    ∀ i, i ∈ bits roleMask.toNat ↔ ∃ role : ControllerRole, role.val = i ∧
      RoleSigns instruction.accounts role
  signers : ∀ index account, instruction.accounts[index]? = some account →
    ∃ kept, wrapped.accounts[index + 2]? = some kept ∧
      (kept.isSigner = true ↔ account.isSigner = true ∧ ¬ IsControllerAuthority account.address)
  onlyCaller : ∀ account ∈ wrapped.accounts, account.isSigner = true → account.address = caller

/-! ## The derived authorities -/

/-- The bump seeds of the authorities. -/
def controllerBump (role : ControllerRole) : Nat := [249, 255, 255, 255, 254].getD role 0

theorem controllerBump_le : ∀ role : ControllerRole, controllerBump role ≤ 255 := by
  decide

theorem controllerAuthority_offCurve : ∀ role : ControllerRole,
    isEd25519CurvePoint (bumpDigest platformSha256 (controllerAuthoritySeeds role)
      faucetProgramAddress (controllerBump role)) = false := by
  decide +kernel

theorem controllerAuthoritySeeds_fit : ∀ role : ControllerRole,
    SeedsFit (controllerAuthoritySeeds role) := by
  intro role
  refine ⟨by simp [controllerAuthoritySeeds], fun seed hmem => ?_⟩
  rcases List.mem_cons.1 hmem with rfl | hmem
  · decide +kernel
  · rw [List.mem_singleton.1 hmem, List.length_singleton]
    omega

/-- **Every role has an authority.** -/
theorem controllerAuthority_ok (role : ControllerRole) :
    ∃ authority, controllerAuthority role = .ok authority := by
  cases h : findProgramAddress platformSha256 (controllerAuthoritySeeds role)
      faucetProgramAddress with
  | ok result => exact ⟨_, Except.bind_of_ok h _⟩
  | error e =>
    have hall := (findProgramAddress_error (controllerAuthoritySeeds_fit role)).1 ⟨e, h⟩
    have hencodes := hall (controllerBump role) (controllerBump_le role)
    rw [← isEd25519CurvePoint_iff (bumpDigest_length ..), controllerAuthority_offCurve] at hencodes
    cases hencodes

theorem RoleSigns.signedBy (accounts : List AccountMetaInput) {role : ControllerRole}
    {authority : String} (hauthority : controllerAuthority role = .ok authority) :
    RoleSigns accounts role ↔ SignedBy accounts authority := by
  constructor
  · rintro ⟨other, hother, hsigned⟩
    rw [hauthority] at hother
    cases hother
    exact hsigned
  · exact fun hsigned => ⟨authority, hauthority, hsigned⟩

/-! ## The scan -/

/-- What the loop has found after some of the roles. -/
structure ScanOf (accounts : List AccountMetaInput) (roles : List ControllerRole)
    (state : RoleScan) : Prop where
  roleMask : ∀ i, i ∈ bits state.roleMask ↔ ∃ role ∈ roles, role.val = i ∧ RoleSigns accounts role
  authorities : ∀ address, address ∈ state.authorities ↔
    SignedBy accounts address ∧ ∃ role ∈ roles, controllerAuthority role = .ok address

section

variable {accounts : List AccountMetaInput} {roles : List ControllerRole} {state : RoleScan}

theorem any_signedBy (accounts : List AccountMetaInput) (address : String) :
    (accounts.any fun account => account.isSigner && account.address == address) = true ↔
      SignedBy accounts address := by
  simp [SignedBy]

theorem ScanOf.scanRole (h : ScanOf accounts roles state) (role : ControllerRole) :
    ∃ next, scanRole accounts state role = .ok next ∧ ScanOf accounts (roles ++ [role]) next := by
  obtain ⟨authority, hauthority⟩ := controllerAuthority_ok role
  have hsigns := RoleSigns.signedBy accounts hauthority
  unfold Chancery.scanRole
  rw [Except.bind_of_ok hauthority]
  by_cases hsigned : SignedBy accounts authority
  · rw [if_pos ((any_signedBy accounts authority).2 hsigned)]
    refine ⟨_, rfl, fun i => ?_, fun address => ?_⟩
    · rw [bits_or, Nat.one_shiftLeft, Set.mem_union, h.roleMask, mem_bits, Nat.testBit_two_pow,
        decide_eq_true_eq, exists_mem_append_singleton, and_iff_left (hsigns.2 hsigned)]
    · rw [List.mem_append, h.authorities, List.mem_singleton, exists_mem_append_singleton,
        hauthority, and_or_left]
      refine or_congr_right ⟨?_, fun ⟨_, hsame⟩ => (Except.ok.inj hsame).symm⟩
      rintro rfl
      exact ⟨hsigned, rfl⟩
  · have hnone := mt (any_signedBy accounts authority).1 hsigned
    rw [if_neg hnone]
    refine ⟨_, rfl, fun i => ?_, fun address => ?_⟩
    · rw [h.roleMask, exists_mem_append_singleton,
        or_iff_left fun hrole => hsigned (hsigns.1 hrole.2)]
    · rw [h.authorities, exists_mem_append_singleton, and_or_left, or_iff_left]
      rintro ⟨haddress, hrole⟩
      rw [hauthority] at hrole
      cases hrole
      exact hsigned haddress

/-- The whole loop, from what it has found so far. -/
theorem ScanOf.foldlM : ∀ (rest : List ControllerRole) {roles : List ControllerRole}
    {state : RoleScan}, ScanOf accounts roles state →
      ∃ last, rest.foldlM (Chancery.scanRole accounts) state = .ok last ∧
        ScanOf accounts (roles ++ rest) last
  | [], roles, state, h => ⟨state, rfl, by rwa [List.append_nil]⟩
  | role :: rest, roles, state, h => by
    obtain ⟨next, hnext, hscan⟩ := h.scanRole role
    obtain ⟨last, hlast, hall⟩ := ScanOf.foldlM rest hscan
    refine ⟨last, ?_, by rwa [List.append_assoc] at hall⟩
    rw [List.foldlM_cons, Except.bind_of_ok hnext, hlast]

/-- **The scan finds the authorities that sign**, with one bit for each of their roles. -/
theorem scanRoles (accounts : List AccountMetaInput) :
    ∃ scan, controllerRoles.foldlM (scanRole accounts) ⟨0, []⟩ = .ok scan ∧
      ScanOf accounts controllerRoles scan := by
  have hnone : ScanOf accounts [] ⟨0, []⟩ :=
    ⟨fun i => by simp, fun address => by simp⟩
  exact hnone.foldlM controllerRoles

theorem mem_controllerRoles : ∀ role : ControllerRole, role ∈ controllerRoles := by
  decide

theorem ScanOf.mem_bits (h : ScanOf accounts controllerRoles state) (i : Nat) :
    i ∈ bits state.roleMask ↔ ∃ role : ControllerRole, role.val = i ∧ RoleSigns accounts role := by
  rw [h.roleMask]
  exact ⟨fun ⟨role, _, hrole⟩ => ⟨role, hrole⟩,
    fun ⟨role, hrole⟩ => ⟨role, mem_controllerRoles role, hrole⟩⟩

theorem ScanOf.mem_authorities (h : ScanOf accounts controllerRoles state)
    {account : AccountMetaInput} (hmem : account ∈ accounts) (hsigner : account.isSigner = true) :
    account.address ∈ state.authorities ↔ IsControllerAuthority account.address := by
  rw [h.authorities]
  constructor
  · rintro ⟨_, role, _, hrole⟩
    exact ⟨role, hrole⟩
  · rintro ⟨role, hrole⟩
    exact ⟨⟨account, hmem, hsigner, rfl⟩, role, mem_controllerRoles role, hrole⟩

theorem ScanOf.roleMask_eq_zero (h : ScanOf accounts controllerRoles state) :
    state.roleMask = 0 ↔ ∀ role, ¬ RoleSigns accounts role := by
  constructor
  · intro hzero role hsigns
    have hbit := (h.mem_bits role.val).2 ⟨role, rfl, hsigns⟩
    rw [hzero] at hbit
    simp at hbit
  · intro hnone
    apply Nat.eq_of_testBit_eq
    intro i
    rw [Nat.zero_testBit, ← Bool.not_eq_true]
    intro hbit
    obtain ⟨role, _, hsigns⟩ := (h.mem_bits i).1 hbit
    exact hnone role hsigns

/-- The mask fits into its byte. -/
theorem ScanOf.roleMask_lt (h : ScanOf accounts controllerRoles state) :
    state.roleMask < 2 ^ 8 := by
  apply Nat.lt_pow_two_of_testBit
  intro i hi
  rw [← Bool.not_eq_true]
  intro hbit
  obtain ⟨role, hrole, _⟩ := (h.mem_bits i).1 hbit
  omega

end

/-! ## The accounts -/

/-- The account does not sign, or signs as an authority, or is the caller. -/
def MaySign (caller : String) (account : AccountMetaInput) : Prop :=
  account.isSigner = true → IsControllerAuthority account.address ∨ account.address = caller

/-- What becomes of one account. -/
structure KeptAccount (account kept : AccountMetaInput) : Prop where
  address : kept.address = account.address
  isWritable : kept.isWritable = account.isWritable
  isSigner : kept.isSigner = true ↔
    account.isSigner = true ∧ ¬ IsControllerAuthority account.address

section

variable {accounts kept : List AccountMetaInput} {scan : RoleScan} {caller : String}

theorem wrapAccount_ok (h : ScanOf accounts controllerRoles scan) {account : AccountMetaInput}
    (hmem : account ∈ accounts) :
    (∃ kept, wrapAccount scan.authorities caller account = .ok kept) ↔ MaySign caller account := by
  unfold wrapAccount MaySign
  by_cases hsigner : account.isSigner = true
  · rw [← h.mem_authorities hmem hsigner]
    by_cases hauthority : account.address ∈ scan.authorities <;>
      by_cases hcaller : account.address = caller <;> simp [hsigner, hauthority, hcaller]
  · simp [hsigner]

theorem wrapAccount_kept (h : ScanOf accounts controllerRoles scan)
    {account kept : AccountMetaInput} (hmem : account ∈ accounts)
    (hkept : wrapAccount scan.authorities caller account = .ok kept) :
    KeptAccount account kept := by
  unfold wrapAccount at hkept
  split at hkept
  · cases hkept
  · cases hkept
    refine ⟨rfl, rfl, ?_⟩
    by_cases hsigner : account.isSigner = true
    · rw [← h.mem_authorities hmem hsigner]
      simp [hsigner]
    · simp [hsigner]

theorem wrapAccounts_ok (h : ScanOf accounts controllerRoles scan) :
    (∃ kept, accounts.mapM (wrapAccount scan.authorities caller) = .ok kept) ↔
      ∀ account ∈ accounts, MaySign caller account := by
  constructor
  · rintro ⟨kept, hkept⟩ account hmem
    obtain ⟨one, _, hone⟩ := forall₂_exists_left (Except.mapM_eq_ok.1 hkept).flip account hmem
    exact (wrapAccount_ok h hmem).1 ⟨one, hone⟩
  · exact fun hall => Except.exists_mapM fun account hmem =>
      (wrapAccount_ok h hmem).2 (hall account hmem)

theorem wrapAccounts_kept (h : ScanOf accounts controllerRoles scan)
    (hkept : accounts.mapM (wrapAccount scan.authorities caller) = .ok kept) :
    List.Forall₂ KeptAccount accounts kept := by
  have hall := (List.forall₂_and_left accounts kept).2
    ⟨fun _ hmem => hmem, Except.mapM_eq_ok.1 hkept⟩
  exact hall.imp fun account kept hone => wrapAccount_kept h hone.1 hone.2

end

/-! ## The whole relay -/

section

variable {instruction : InstructionText} {scan : RoleScan} {kept : List AccountMetaInput}

/-- The result keeps and adds what it should. -/
theorem wraps_of_kept (caller : String) (hscan : ScanOf instruction.accounts controllerRoles scan)
    (hmay : ∀ account ∈ instruction.accounts, MaySign caller account)
    (hkept : List.Forall₂ KeptAccount instruction.accounts kept) :
    Wraps caller instruction {
      programAddress := faucetProgramAddress.toBase58
      accounts := ⟨caller, true, false⟩ :: ⟨instruction.programAddress, false, false⟩ :: kept
      data := 1 :: UInt8.ofNat scan.roleMask :: instruction.data } where
  programAddress := rfl
  header := rfl
  accounts := by
    have hsame : List.Forall₂ Eq (kept.map fun account => (account.address, account.isWritable))
        (instruction.accounts.map fun account => (account.address, account.isWritable)) := by
      rw [List.forall₂_map_left_iff, List.forall₂_map_right_iff]
      exact hkept.flip.imp fun one account hone => by rw [hone.address, hone.isWritable]
    rwa [List.forall₂_eq_eq_eq] at hsame
  data := by
    refine ⟨_, rfl, fun i => ?_⟩
    rw [UInt8.toNat_ofNat', Nat.mod_eq_of_lt hscan.roleMask_lt]
    exact hscan.mem_bits i
  signers := by
    intro index account haccount
    obtain ⟨hindex, rfl⟩ := List.getElem?_eq_some_iff.1 haccount
    have hlt : index < kept.length := by rwa [← hkept.length_eq]
    exact ⟨kept[index], List.getElem?_eq_getElem hlt, (hkept.get hindex hlt).isSigner⟩
  onlyCaller := by
    intro account hmem hsigner
    rcases List.mem_cons.1 hmem with rfl | hmem
    · rfl
    · rcases List.mem_cons.1 hmem with rfl | hmem
      · cases hsigner
      · obtain ⟨original, horiginal, hone⟩ := forall₂_exists_left hkept account hmem
        obtain ⟨hsigned, hnot⟩ := hone.isSigner.1 hsigner
        rw [hone.address]
        exact (hmay original horiginal hsigned).resolve_left hnot

/-- The relay accepts what it should, and wraps it. -/
theorem executeChanceryInstruction_ok (caller : PublicKey) (instruction : InstructionText) :
    ((∃ wrapped, executeChanceryInstruction caller.toBase58 instruction = .ok wrapped) ↔
      instruction.programAddress = chanceryDevnetProgramAddress.toBase58 ∧
        2 ≤ instruction.data.length ∧ (∃ role, RoleSigns instruction.accounts role) ∧
        ∀ account ∈ instruction.accounts, MaySign caller.toBase58 account) ∧
      ∀ wrapped, executeChanceryInstruction caller.toBase58 instruction = .ok wrapped →
        Wraps caller.toBase58 instruction wrapped := by
  obtain ⟨scan, hscan, hof⟩ := scanRoles instruction.accounts
  have hcaller : normalizePublicKey caller.toBase58 = .ok caller.toBase58 := by
    rw [normalizePublicKey, decodePublicKey_toBase58]
  unfold executeChanceryInstruction
  by_cases htarget : instruction.programAddress ≠ chanceryDevnetProgramAddress.toBase58 ∨
      instruction.data.length < 2
  · rw [if_pos htarget]
    refine ⟨iff_of_false (by simp) ?_, by simp⟩
    rintro ⟨hprogram, hlength, -⟩
    rcases htarget with htarget | hshort
    · exact htarget hprogram
    · omega
  · rw [if_neg htarget, Except.bind_of_ok hcaller, Except.bind_of_ok hscan]
    obtain ⟨hprogram, hlength⟩ := not_or.1 htarget
    by_cases hzero : scan.roleMask = 0
    · rw [if_pos hzero]
      refine ⟨iff_of_false (by simp) ?_, by simp⟩
      rintro ⟨-, -, ⟨role, hrole⟩, -⟩
      exact hof.roleMask_eq_zero.1 hzero role hrole
    · rw [if_neg hzero]
      have hsigns : ∃ role, RoleSigns instruction.accounts role :=
        not_forall_not.1 (mt hof.roleMask_eq_zero.2 hzero)
      constructor
      · rw [← wrapAccounts_ok hof]
        constructor
        · rintro ⟨wrapped, hwrapped⟩
          obtain ⟨kept, hkept, -⟩ := Except.bind_eq_ok.1 hwrapped
          exact ⟨not_not.1 hprogram, by omega, hsigns, kept, hkept⟩
        · rintro ⟨-, -, -, kept, hkept⟩
          exact ⟨_, Except.bind_of_ok hkept _⟩
      · intro wrapped hwrapped
        obtain ⟨kept, hkept, hret⟩ := Except.bind_eq_ok.1 hwrapped
        cases hret
        exact wraps_of_kept _ hof ((wrapAccounts_ok hof).1 ⟨kept, hkept⟩)
          (wrapAccounts_kept hof hkept)

end

/-- **The relay is exact**, for every caller and every instruction: its result keeps the accounts
and the data, clears the signers that are authorities and leaves the caller as the only one, and it
rejects for the four reasons only. -/
theorem executeChanceryInstruction_exact (caller : PublicKey) (instruction : InstructionText) :
    (∀ wrapped, executeChanceryInstruction caller.toBase58 instruction = .ok wrapped →
      Wraps caller.toBase58 instruction wrapped) ∧
    ((∃ e, executeChanceryInstruction caller.toBase58 instruction = .error e) ↔
      instruction.programAddress ≠ chanceryDevnetProgramAddress.toBase58 ∨
        instruction.data.length < 2 ∨ (∀ role, ¬ RoleSigns instruction.accounts role) ∨
        ∃ account ∈ instruction.accounts, account.isSigner = true ∧
          ¬ IsControllerAuthority account.address ∧ account.address ≠ caller.toBase58) := by
  obtain ⟨hok, hwraps⟩ := executeChanceryInstruction_ok caller instruction
  refine ⟨hwraps, ?_⟩
  have herror : (∃ e, executeChanceryInstruction caller.toBase58 instruction = .error e) ↔
      ¬ ∃ wrapped, executeChanceryInstruction caller.toBase58 instruction = .ok wrapped := by
    cases executeChanceryInstruction caller.toBase58 instruction <;> simp
  rw [herror, hok]
  simp only [MaySign, not_and_or, not_exists, not_forall, not_or, not_le, exists_prop]

end Chancery
