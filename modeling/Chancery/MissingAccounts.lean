import Chancery.InspectionLaws
import Chancery.Chain

/-!
# Missing token accounts

* `resolveTokenAccount_absent` — an account that the chain does not hold resolves as missing.
* `missingAccounts_reported_iff` — when missing accounts end in a blocking report, not a failure.
-/

set_option autoImplicit false

namespace Chancery

variable {client : ChanceryClient}

/-- The issues of the required token accounts that do not exist; the fee recipient's is required
when the fee is routed. -/
def missingAccountIssues (resolution : SettlementResolution) : List String :=
  let accounts := resolution.tokenAccounts
  issueWhen (accounts.source.doesExist = false) (missingTokenAccount "Source" accounts.source) ++
    issueWhen (accounts.destination.doesExist = false)
      (missingTokenAccount "Destination" accounts.destination) ++
    issueWhen (accounts.reserve.doesExist = false)
      (missingTokenAccount "Reserve" accounts.reserve) ++
    issueWhen (resolution.quote.quote.feeQuote.routed ∧ accounts.feeRecipient.doesExist = false)
      (missingTokenAccount "Fee recipient" accounts.feeRecipient)

/-- The chain holds neither the account at the address nor, without an override, another one of
the owner. -/
def TokenAccountAbsent (client : ChanceryClient)
    (node : (request : RpcRequest) → request.Answer) (input : TokenAccountResolutionInput)
    (address : PublicKey) : Prop :=
  (getAccountInfo address client.commitment).run node = .ok none ∧
    match input.overrideAddress with
    | some override => override = address
    | none =>
      (∃ bump, deriveAssociatedTokenAddress client.sha256 input.owner input.mint
        input.tokenProgramAddress = .ok ⟨address, bump⟩) ∧
      ∃ accounts, (getTokenAccountsByOwner input.owner input.mint client.commitment).run node =
        .ok accounts ∧ accounts.filterMap (ownerAccountMatch input) = []

theorem loadTokenAccount_absent {node : (request : RpcRequest) → request.Answer}
    {address owner mint tokenProgramAddress : PublicKey} {selection : TokenAccountSelection}
    (h : (getAccountInfo address client.commitment).run node = .ok none) :
    (loadTokenAccountAtAddress client address owner mint tokenProgramAddress selection true).run
      node = .ok (.missing address tokenProgramAddress) := by
  rw [loadTokenAccountAtAddress, Interaction.run_bind, h]
  rfl

/-- An absent account resolves as missing, without a failure. -/
theorem resolveTokenAccount_absent {node : (request : RpcRequest) → request.Answer}
    {input : TokenAccountResolutionInput} {address : PublicKey}
    (hallow : input.allowMissing = true) (h : TokenAccountAbsent client node input address) :
    (resolveTokenAccount client input).run node =
      .ok (.missing address input.tokenProgramAddress) := by
  obtain ⟨hanswer, h⟩ := h
  unfold resolveTokenAccount
  cases hoverride : input.overrideAddress with
  | some override =>
    rw [hoverride] at h
    dsimp only at h ⊢
    rw [h, hallow]
    exact loadTokenAccount_absent hanswer
  | none =>
    rw [hoverride] at h
    obtain ⟨⟨bump, hderive⟩, accounts, haccounts, hmatches⟩ := h
    have hunique : uniqueOwnerAccount input address accounts =
        .ok (.missing address input.tokenProgramAddress) := by
      rw [uniqueOwnerAccount, hmatches, hallow]
      rfl
    dsimp only
    rw [hderive, Interaction.run_bind]
    show (loadTokenAccountAtAddress client address _ _ _ _ true >>= _).run node = _
    rw [Interaction.run_bind, loadTokenAccount_absent hanswer]
    show (getTokenAccountsByOwner input.owner input.mint client.commitment >>= _).run node = _
    rw [Interaction.run_bind, haccounts]
    exact hunique

/-! ## The report -/

theorem missingAccountIssues_subset (resolution : SettlementResolution) :
    ∀ issue ∈ missingAccountIssues resolution, issue ∈ blockingIssues resolution := by
  intro issue hissue
  have hmem : issue ∈ tokenAccountIssues resolution := by
    simp only [missingAccountIssues, List.mem_append, mem_issueWhen] at hissue
    simp only [tokenAccountIssues, validateTokenAccounts, List.mem_append, mem_issueWhen]
    rcases hissue with ((⟨hsource, rfl⟩ | hdestination) | ⟨hreserve, rfl⟩) | hrecipient
    · have hnone := Option.isNone_iff_eq_none.1 (Option.isSome_eq_false_iff.1 hsource)
      exact .inl (.inl (.inl (by simp [sourceIssues, hnone])))
    · exact .inl (.inl (.inr hdestination))
    · have hnone := Option.isNone_iff_eq_none.1 (Option.isSome_eq_false_iff.1 hreserve)
      exact .inl (.inr (by simp [reserveIssues, hnone]))
    · exact .inr hrecipient
  simp [blockingIssues, hmem]

/-- Not ready, with every missing account among the blocking issues. -/
def ReportsMissing (resolution : SettlementResolution) (inspection : SettlementInspection) : Prop :=
  inspection.ready = false ∧
    ∀ issue ∈ missingAccountIssues resolution, issue ∈ inspection.blockingIssues

theorem reportsMissing_of_assemble {resolution : SettlementResolution}
    {inspection : SettlementInspection} (h : assembleInspection resolution = .ok inspection)
    (hmissing : missingAccountIssues resolution ≠ []) : ReportsMissing resolution inspection := by
  have hsubset := missingAccountIssues_subset resolution
  constructor
  · rw [← Bool.not_eq_true, ready_iff h]
    intro hnil
    obtain ⟨issue, hissue⟩ := List.exists_mem_of_ne_nil _ hmissing
    rw [hnil] at hsubset
    cases hsubset issue hissue
  · obtain ⟨_, _, -, -, rfl⟩ := assembleInspection_ok.1 h
    intro issue hissue
    exact List.mem_eraseDups.2 (hsubset issue hissue)

/-- **When missing token accounts end in a blocking report**: exactly when only the fee
recipient's is missing.  Without the source, reserve or destination the inspection fails. -/
theorem missingAccounts_reported_iff (client : ChanceryClient)
    (requestInput : SettlementOperationRequest) (clock : RpcClock)
    (resolution : SettlementResolution)
    (h : (resolveAt client requestInput clock).Yields (.ok resolution))
    (hmissing : missingAccountIssues resolution ≠ []) :
    (∃ inspection, assembleInspection resolution = .ok inspection ∧
        ReportsMissing resolution inspection) ↔
      resolution.tokenAccounts.source.doesExist = true ∧
        resolution.tokenAccounts.reserve.doesExist = true ∧
        resolution.tokenAccounts.destination.doesExist = true := by
  have hresolved := resolved_of_yields h
  rw [← buildInstructionAccounts_ok_iff hresolved]
  constructor
  · rintro ⟨inspection, hassemble, -⟩
    obtain ⟨_, instructionAccounts, -, haccounts, -⟩ := assembleInspection_ok.1 hassemble
    exact ⟨instructionAccounts, haccounts⟩
  · rintro ⟨instructionAccounts, haccounts⟩
    obtain ⟨instructionArguments, harguments⟩ := buildInstructionArguments_total hresolved
    have hassemble := assembleInspection_ok.2
      ⟨instructionArguments, instructionAccounts, harguments, haccounts, rfl⟩
    exact ⟨_, hassemble, reportsMissing_of_assemble hassemble hmissing⟩

/-- The direct market without the principal's token account. -/
def sourcelessMarket : Chain :=
  ⟨100, Sample.coreEntries 100 1000000000 ++ Sample.directEntries ++ (Sample.tokenEntries 5).tail⟩

def sourcelessClock : RpcClock := ⟨100, 0, 5, 0, 1000⟩

def failsWith (message : String) : Except String SettlementInspection → Bool
  | .ok _ => false
  | .error e => e == message

theorem eq_error_of_failsWith {message : String} {result : Except String SettlementInspection}
    (h : failsWith message result = true) : result = .error message := by
  cases result with
  | ok inspection => cases h
  | error e => rw [eq_of_beq h]

theorem sourceless_run :
    ∃ resolution, (resolveAt (Sample.client .typescript) (Sample.directMint 5) sourcelessClock).run
        sourcelessMarket.answer = .ok resolution ∧
      missingAccountIssues resolution ≠ [] ∧
      assembleInspection resolution = .error "source token account is unavailable" := by
  have hrun : ((resolveAt (Sample.client .typescript) (Sample.directMint 5) sourcelessClock).run
      sourcelessMarket.answer).toOption.any (fun resolution =>
        !(missingAccountIssues resolution).isEmpty &&
          failsWith "source token account is unavailable" (assembleInspection resolution)) =
      true := by
    decide +kernel
  obtain ⟨resolution, hresolution, hfacts⟩ := Interaction.run_of_check hrun
  simp only [Bool.and_eq_true, Bool.not_eq_true', List.isEmpty_eq_false_iff] at hfacts
  exact ⟨resolution, hresolution, hfacts.1, eq_error_of_failsWith hfacts.2⟩

theorem missingAccounts_reported_iff_sourceless :
    ∃ resolution, (resolveAt (Sample.client .typescript) (Sample.directMint 5)
        sourcelessClock).Yields (.ok resolution) ∧
      ((∃ inspection, assembleInspection resolution = .ok inspection ∧
          ReportsMissing resolution inspection) ↔
        resolution.tokenAccounts.source.doesExist = true ∧
          resolution.tokenAccounts.reserve.doesExist = true ∧
          resolution.tokenAccounts.destination.doesExist = true) := by
  obtain ⟨resolution, hresolution, hmissing, -⟩ := sourceless_run
  have hyields := Interaction.yields_of_run_eq hresolution
  exact ⟨resolution, hyields, missingAccounts_reported_iff _ _ _ resolution hyields hmissing⟩

/-- Everything is found but the source account, and the inspection fails. -/
theorem sourceless_inspect_fails :
    ∃ resolution, (resolveAt (Sample.client .typescript) (Sample.directMint 5)
        sourcelessClock).Yields (.ok resolution) ∧ missingAccountIssues resolution ≠ [] ∧
      (inspect (Sample.client .typescript) (Sample.directMint 5)).run sourcelessMarket.respond =
        .error "source token account is unavailable" := by
  obtain ⟨resolution, hresolution, hmissing, hassemble⟩ := sourceless_run
  refine ⟨resolution, Interaction.yields_of_run_eq hresolution, hmissing, ?_⟩
  have hclock : ((getClock (Sample.client .typescript).commitment).run
      sourcelessMarket.answer).toOption = some sourcelessClock := by rfl
  cases hread : (getClock (Sample.client .typescript).commitment).run sourcelessMarket.answer with
  | error e => simp [hread, Except.toOption] at hclock
  | ok clock =>
    rw [hread] at hclock
    cases hclock
    rw [Chain.run_inspect _ hread, Chain.run_inspectAt _ hresolution, hassemble]

end Chancery
