import Chancery.Chain
import Chancery.DecodedValues
import Mathlib.Data.List.Forall2

/-!
# Which pathway a settlement takes

The selection of a pathway out of all the `PathwayPolicy` accounts of the program,
`#discoverPathways` and `selectPathwayCandidate` in `typescript/src/client/ChanceryClient.ts` and
`_discover_pathways` and `_select_pathway_candidate` in `python/chancery_reference/client.py`.
A candidate's status is read, but the selection does not look at it.

* `PathwayAccount` — an account that holds a pathway; `Terms` — what a settlement asks of it.
* `pathwaySelection_selects_matching` — the selection is by everything but the status.
* `pathwaySelection_eligible_iff` — when it is a selection of the eligible pathway all the same.
-/

set_option autoImplicit false

namespace Chancery

/-- A `PathwayPolicy` account of the program, and the canonical address of its pathway. -/
structure PathwayAccount (client : ChanceryClient) where
  listed : RpcAddressAccountInfo
  values : StructValues
  pathwayId : Bytes
  canonical : PublicKey
  owner_eq : listed.account.owner = client.deployment.programAddress
  decodes : decodeAccount client listed.account.data = .ok ⟨"PathwayPolicy", values⟩
  pathwayId_eq : requireBytes (values.lookup "pathway_id") "pathway id" 32 = .ok pathwayId
  derives : (derivePathwayPolicyAddress client pathwayId).map (·.address) = .ok canonical

/-- What a settlement asks of its pathway. -/
structure PathwayTerms where
  request : NormalizedSettlementOperationRequest
  pathwayIdConstraint : Option Bytes
  issuedTokenMint : PublicKey

section

variable (client : ChanceryClient) (terms : PathwayTerms)

/-- The selection from a listing. -/
def pathwaySelection : Reads PathwayCandidate := do
  let candidates ←
    discoverPathways client terms.request terms.pathwayIdConstraint terms.issuedTokenMint
  selectPathwayCandidate candidates

/-- An endpoint that lists these accounts. -/
def listing (programAccounts : List RpcAddressAccountInfo) :
    (request : RpcRequest) → request.Answer
  | .getProgramAccounts _ _ _ => .ok programAccounts
  | .getSlot _ => .error "not listed"
  | .getAccountInfo _ _ => .error "not listed"
  | .bothAccountInfos _ _ _ => (.error "not listed", .error "not listed")
  | .getTokenAccountsByOwner _ _ _ => .error "not listed"

variable {client}

namespace PathwayAccount

variable (account : PathwayAccount client)

/-- Mints, kind, pathway id and address are as asked for. -/
def matchesTerms : Bool :=
  requirePublicKeyField account.values "asset_mint" = .ok terms.request.assetMint
    && requirePublicKeyField account.values "issued_token_mint" = .ok terms.issuedTokenMint
    && requireNumberField client.language account.values "pathway_kind" =
      .ok (pathwayKindValue terms.request.mode)
    && terms.pathwayIdConstraint.all (· = account.pathwayId)
    && account.canonical = account.listed.address

/-- Whether the pathway is active. -/
def isActive : Bool := pathwayIsActive client.language account.values = .ok true

/-- What the documentation calls eligible. -/
def isEligible : Bool := account.matchesTerms terms && account.isActive

/-- It would be eligible if it were active. -/
def isDisabled : Bool := account.matchesTerms terms && !account.isActive

/-- The account as a candidate. -/
def candidate : Except String PathwayCandidate :=
  pathwayCandidate client terms.request terms.pathwayIdConstraint terms.issuedTokenMint
    account.listed.address account.values

end PathwayAccount

/-- The one account that is wanted, or an error when there is not exactly one. -/
def Selects (wanted : List (PathwayAccount client)) (selection : Except String PathwayCandidate) :
    Prop :=
  (∀ account, wanted = [account] →
    ∃ candidate, account.candidate terms = .ok candidate ∧ selection = .ok candidate) ∧
  (wanted.length ≠ 1 → ∃ message, selection = .error message)

variable {terms}

/-! ## Candidates -/

/-- **A pathway account is a candidate**, and one that is selected when it matches. -/
theorem PathwayAccount.candidate_ok (account : PathwayAccount client) :
    ∃ candidate, account.candidate terms = .ok candidate ∧
      candidate.isEligible = account.matchesTerms terms := by
  obtain ⟨original, horiginal, hvalues⟩ :=
    decodedAs_typescript (L := client.language) ⟨_, account.decodes⟩
  obtain ⟨assetMint, hassetMint⟩ := read_publicKey "asset_mint" horiginal rfl
  obtain ⟨issuedTokenMint, hissuedTokenMint⟩ := read_publicKey "issued_token_mint" horiginal rfl
  obtain ⟨kind, -, hkind⟩ := read_number "pathway_kind" horiginal rfl rfl
  obtain ⟨designatedExecutor, hdesignated⟩ := read_publicKey "designated_executor" horiginal rfl
  obtain ⟨statusFlags, -, hstatusFlags⟩ := read_unsigned "status_flags" horiginal rfl
  have hassetMint := hvalues ▸ hassetMint client.language
  have hissuedTokenMint := hvalues ▸ hissuedTokenMint client.language
  have hkind := hvalues ▸ hkind client.language
  have hdesignated := hvalues ▸ hdesignated client.language
  have hstatusFlags := hvalues ▸ hstatusFlags client.language
  obtain ⟨active, hactive⟩ : ∃ active, pathwayIsActive client.language account.values =
      .ok active := by
    unfold pathwayIsActive
    rw [hstatusFlags]
    exact ⟨_, rfl⟩
  obtain ⟨derived, hderived, hcanonical⟩ : ∃ derived,
      derivePathwayPolicyAddress client account.pathwayId = .ok derived ∧
        derived.address = account.canonical := by
    have hderives := account.derives
    cases hderived : derivePathwayPolicyAddress client account.pathwayId with
    | error message =>
      rw [hderived] at hderives
      cases hderives
    | ok derived =>
      rw [hderived] at hderives
      exact ⟨derived, rfl, Except.ok.inj hderives⟩
  unfold PathwayAccount.candidate pathwayCandidate
  rw [Except.bind_of_ok account.pathwayId_eq, Except.bind_of_ok hderived,
    Except.bind_of_ok hassetMint, Except.bind_of_ok hissuedTokenMint, Except.bind_of_ok hkind,
    Except.bind_of_ok hdesignated, Except.bind_of_ok hactive]
  refine ⟨_, rfl, ?_⟩
  simp [PathwayCandidate.isEligible, PathwayAccount.matchesTerms, hassetMint, hissuedTokenMint,
    hkind, ← hcanonical]

theorem listedPathway_account (account : PathwayAccount client)
    {candidate : PathwayCandidate} (h : account.candidate terms = .ok candidate) :
    listedPathway client terms.request terms.pathwayIdConstraint terms.issuedTokenMint
      account.listed = .ok [candidate] := by
  unfold PathwayAccount.candidate at h
  unfold listedPathway listedValues
  rw [if_neg (not_not_intro account.owner_eq), account.decodes]
  dsimp only [Bind.bind, Except.bind, pure, Except.pure, ne_eq]
  rw [if_neg (not_not_intro rfl)]
  dsimp only
  rw [h]

variable (terms) in
/-- What the loop keeps of an account. -/
def Represents (account : PathwayAccount client) (candidate : PathwayCandidate) : Prop :=
  account.candidate terms = .ok candidate ∧ candidate.isEligible = account.matchesTerms terms

variable (terms) in
theorem collect_listedPathway : ∀ accounts : List (PathwayAccount client), ∃ candidates,
    Extraction.collect (listedPathway client terms.request terms.pathwayIdConstraint
      terms.issuedTokenMint) (accounts.map (·.listed)) = .ok candidates ∧
    List.Forall₂ (Represents terms) accounts candidates
  | [] => ⟨[], rfl, .nil⟩
  | account :: accounts => by
    have hlisted : ∃ candidate, Represents terms account candidate := account.candidate_ok
    obtain ⟨candidate, hcandidate, heligible⟩ := hlisted
    obtain ⟨candidates, hcollect, hrepresents⟩ := collect_listedPathway accounts
    refine ⟨candidate :: candidates, ?_, .cons ⟨hcandidate, heligible⟩ hrepresents⟩
    rw [List.map_cons, Extraction.collect, listedPathway_account account hcandidate, hcollect]
    rfl

/-! ## The selection -/

theorem selects_none {message : String} : Selects terms ([] : List (PathwayAccount client))
    (.error message) := by
  refine ⟨?_, fun _ => ⟨message, rfl⟩⟩
  intro account h
  cases h

theorem selects_one {account : PathwayAccount client} {candidate : PathwayCandidate}
    (h : account.candidate terms = .ok candidate) : Selects terms [account] (.ok candidate) := by
  refine ⟨?_, fun hlength => absurd rfl hlength⟩
  intro other hother
  cases hother
  exact ⟨candidate, h, rfl⟩

theorem selects_many {first second : PathwayAccount client} {rest : List (PathwayAccount client)}
    {message : String} : Selects terms (first :: second :: rest) (.error message) := by
  refine ⟨?_, fun _ => ⟨message, rfl⟩⟩
  intro account h
  cases h

theorem selectPathwayCandidate_selects {accounts : List (PathwayAccount client)}
    {candidates : List PathwayCandidate}
    (h : List.Forall₂ (Represents terms) accounts candidates) :
    Selects terms (accounts.filter (·.matchesTerms terms)) (selectPathwayCandidate candidates) := by
  have hfilter : List.Forall₂ (Represents terms) (accounts.filter (·.matchesTerms terms))
      (candidates.filter (·.isEligible)) := by
    induction h with
    | nil => exact .nil
    | @cons account candidate _ _ hrepresents _ ih =>
      rw [List.filter_cons, List.filter_cons, hrepresents.2]
      split
      · exact .cons hrepresents ih
      · exact ih
  unfold selectPathwayCandidate
  generalize accounts.filter (·.matchesTerms terms) = wanted at hfilter
  generalize candidates.filter (·.isEligible) = eligible at hfilter
  cases hfilter with
  | nil => exact selects_none
  | cons hrepresents hrest =>
    cases hrest with
    | nil => exact selects_one hrepresents.1
    | cons => exact selects_many

theorem run_pathwaySelection (programAccounts : List RpcAddressAccountInfo) :
    (pathwaySelection client terms).run (listing programAccounts) =
      Extraction.collect (listedPathway client terms.request terms.pathwayIdConstraint
        terms.issuedTokenMint) programAccounts >>= selectPathwayCandidate := by
  have hschema : ∃ schema, getAccountSchema "PathwayPolicy" = .ok schema := ⟨_, rfl⟩
  obtain ⟨schema, hschema⟩ := hschema
  unfold pathwaySelection discoverPathways discriminatedAccounts
  rw [hschema]
  show Interaction.run _ (Interaction.bind (.done (Extraction.collect _ programAccounts)) _) = _
  cases Extraction.collect (listedPathway client terms.request terms.pathwayIdConstraint
      terms.issuedTokenMint) programAccounts with
  | error message => rfl
  | ok candidates => rfl

/-- **The selection is by everything but the status.** -/
theorem pathwaySelection_selects_matching (terms : PathwayTerms)
    (accounts : List (PathwayAccount client)) :
    Selects terms (accounts.filter (·.matchesTerms terms))
      ((pathwaySelection client terms).run (listing (accounts.map (·.listed)))) := by
  obtain ⟨candidates, hcollect, hrepresents⟩ := collect_listedPathway terms accounts
  rw [run_pathwaySelection, hcollect]
  exact selectPathwayCandidate_selects hrepresents

variable (terms) in
/-- The status makes no difference: no disabled pathway matches, or several eligible ones do, or
several disabled ones and no eligible one. -/
def StatusImmaterial (accounts : List (PathwayAccount client)) : Prop :=
  accounts.filter (·.isDisabled terms) = [] ∨
    2 ≤ (accounts.filter (·.isEligible terms)).length ∨
    accounts.filter (·.isEligible terms) = [] ∧
      2 ≤ (accounts.filter (·.isDisabled terms)).length

variable (terms) in
/-- Every account that matches is eligible or disabled. -/
theorem matching_length (accounts : List (PathwayAccount client)) :
    (accounts.filter (·.matchesTerms terms)).length =
      (accounts.filter (·.isEligible terms)).length +
        (accounts.filter (·.isDisabled terms)).length := by
  rw [List.length_eq_length_filter_add fun account => account.isActive, List.filter_filter,
    List.filter_filter]
  simp only [PathwayAccount.isEligible, PathwayAccount.isDisabled, Bool.and_comm]

theorem eligible_of_noneDisabled {accounts : List (PathwayAccount client)}
    (h : accounts.filter (·.isDisabled terms) = []) :
    accounts.filter (·.isEligible terms) = accounts.filter (·.matchesTerms terms) := by
  apply List.filter_congr
  intro account haccount
  have hdisabled := List.filter_eq_nil_iff.1 h account haccount
  unfold PathwayAccount.isDisabled at hdisabled
  unfold PathwayAccount.isEligible
  cases hactive : account.isActive with
  | true => exact Bool.and_true _
  | false =>
    rw [hactive] at hdisabled
    simpa using hdisabled

/-- Two lists of which exactly one is a singleton are not selected from alike. -/
theorem Selects.length_eq_one_iff {wanted others : List (PathwayAccount client)}
    {selection : Except String PathwayCandidate} (h : Selects terms wanted selection)
    (h' : Selects terms others selection) : wanted.length = 1 ↔ others.length = 1 := by
  have hone : ∀ {left right : List (PathwayAccount client)}, Selects terms left selection →
      Selects terms right selection → left.length = 1 → right.length = 1 := by
    intro left right hleft hright hlength
    obtain ⟨account, rfl⟩ := List.length_eq_one_iff.1 hlength
    obtain ⟨candidate, -, hselected⟩ := hleft.1 account rfl
    by_contra hother
    obtain ⟨message, hfailed⟩ := hright.2 hother
    rw [hselected] at hfailed
    cases hfailed
  exact ⟨hone h h', hone h' h⟩

/-- **Exactly when the status makes no difference** is the eligible pathway selected: the one, when
there is one, and none when there is none or more than one. -/
theorem pathwaySelection_eligible_iff (client : ChanceryClient) (terms : PathwayTerms)
    (accounts : List (PathwayAccount client)) :
    Selects terms (accounts.filter (·.isEligible terms))
        ((pathwaySelection client terms).run (listing (accounts.map (·.listed)))) ↔
      StatusImmaterial terms accounts := by
  have hmatching := pathwaySelection_selects_matching terms accounts
  have hlength := matching_length terms accounts
  unfold StatusImmaterial
  constructor
  · intro heligible
    have hone := heligible.length_eq_one_iff hmatching
    rw [← List.length_eq_zero_iff, ← List.length_eq_zero_iff]
    omega
  · rintro (hnone | hseveral | ⟨hnone, hseveral⟩)
    · rw [eligible_of_noneDisabled hnone]
      exact hmatching
    · refine ⟨fun account haccount => ?_, fun _ => hmatching.2 (by omega)⟩
      rw [haccount, List.length_singleton] at hseveral
      omega
    · refine ⟨fun account haccount => ?_, fun _ => hmatching.2 (by omega)⟩
      rw [hnone] at haccount
      cases haccount

end

/-! ## A paused pathway beside an active one -/

namespace Sample

/-- A second pathway of the sample market. -/
def otherPathwayId : Bytes := (key 8).bytes

def otherPathwayPolicy : PublicKey := address
  [81, 21, 147, 46, 136, 82, 192, 145, 53, 209, 182, 128, 186, 79, 81, 83, 140, 193, 40, 184, 38,
   20, 97, 29, 79, 212, 79, 184, 190, 253, 55, 216]

/-- A direct pathway with the given flags. -/
def directPathway (pathwayId : Bytes) (statusFlags : Int) : RpcAccountInfo :=
  state "PathwayPolicy" [("pathway_kind", .number (pathwayKindValue .direct)),
    ("pathway_id", .bytes pathwayId), ("asset_mint", keyValue assetMint),
    ("issued_token_mint", keyValue issuedTokenMint), ("status_flags", .bigint statusFlags)]

/-- Initialized and in use. -/
def activePathway : PathwayAccount (client .typescript) where
  listed := ⟨pathwayPolicy, directPathway pathwayId 1⟩
  values := decodedValues .typescript (directPathway pathwayId 1).data
  pathwayId := pathwayId
  canonical := pathwayPolicy
  owner_eq := rfl
  decodes := decodeAccount_decodedValues (by decide +kernel)
  pathwayId_eq := by decide +kernel
  derives := by decide +kernel

/-- Initialized and paused. -/
def pausedPathway : PathwayAccount (client .typescript) where
  listed := ⟨otherPathwayPolicy, directPathway otherPathwayId 9⟩
  values := decodedValues .typescript (directPathway otherPathwayId 9).data
  pathwayId := otherPathwayId
  canonical := otherPathwayPolicy
  owner_eq := rfl
  decodes := decodeAccount_decodedValues (by decide +kernel)
  pathwayId_eq := by decide +kernel
  derives := by decide +kernel

/-- A direct mint without a pathway id. -/
def directTerms : PathwayTerms where
  request := {
    action := .mint
    mode := .direct
    assetMint := assetMint
    principal := principal
    amount := some 5
    minimumOutput := none
    pathwayId := none
    intentId := none
    executor := none
    principalB := none
    sourceTokenAccount := none
    destinationTokenAccount := none
    feeRecipientTokenAccount := none
    rentRefundRecipient := none
    nowUnixTimestamp := 1000 }
  pathwayIdConstraint := none
  issuedTokenMint := issuedTokenMint

end Sample

/-- The paused pathway gets in the way of the active one. -/
theorem pausedPathway_blocks_selection :
    ¬ Selects Sample.directTerms
      ([Sample.pausedPathway, Sample.activePathway].filter (·.isEligible Sample.directTerms))
      ((pathwaySelection (Sample.client .typescript) Sample.directTerms).run
        (listing ([Sample.pausedPathway, Sample.activePathway].map (·.listed)))) := by
  intro heligible
  have hmatching := pathwaySelection_selects_matching Sample.directTerms
    [Sample.pausedPathway, Sample.activePathway]
  have hone := heligible.length_eq_one_iff hmatching
  have htwo : ([Sample.pausedPathway, Sample.activePathway].filter
    (·.matchesTerms Sample.directTerms)).length = 2 := by decide +kernel
  have heligibleOne : ([Sample.pausedPathway, Sample.activePathway].filter
    (·.isEligible Sample.directTerms)).length = 1 := by decide +kernel
  omega

end Chancery
