import Mathlib.Data.List.ReduceOption
import Chancery.Chain
import Chancery.DiscoveryLaws

/-!
# The order of the accounts

The node lists the accounts in any order.  Everything behind the sort sees one list; before it,
only the address of a `RemoteNonce` looks at other accounts.

* `chooseCandidate` — what the loop over the domain policies makes of their candidates;
  `remoteNonceCandidates_eq`, `chooseCandidate_perm`.
* `NonceAddressesSound` — the digest gives each nonce an address, and no two the same.
* `discovery_orderFree` — the order of the accounts does not matter, and a discovery is complete.
-/

set_option autoImplicit false

namespace Chancery

variable {client : ChanceryClient}

/-! ## Candidates -/

/-- What one domain policy adds to the candidates. -/
def nonceCandidate (client : ChanceryClient) (remoteDomainId : Int) (scopeKey : Bytes)
    (policy : DiscoveredChanceryAccount) : Except String (Option NamedProgramAddress) := do
  let policyDomainId ← requireBigIntField client.language policy.values "remote_domain_id"
  if policyDomainId ≠ remoteDomainId then return none
  else do
    let remoteChainKind ← requireNumberField client.language policy.values "remote_chain_kind"
    let candidate ← Named.deriveRemoteNonceAddress client remoteChainKind remoteDomainId scopeKey
    return some candidate

/-- The candidate at the actual address, or else the only one. -/
def chooseCandidate (actualAddress : PublicKey) (candidates : List NamedProgramAddress) :
    Option NamedProgramAddress :=
  match candidates.find? fun candidate => candidate.address = actualAddress, candidates with
  | some candidate, _ => some candidate
  | none, [candidate] => some candidate
  | none, _ => none

/-- The early return does not show when every policy has its candidate. -/
theorem remoteNonceCandidates_eq {actualAddress : PublicKey} {remoteDomainId : Int}
    {scopeKey : Bytes} : ∀ {policies : List DiscoveredChanceryAccount}
    {found : List (Option NamedProgramAddress)} {candidates : List NamedProgramAddress},
    policies.mapM (nonceCandidate client remoteDomainId scopeKey) = .ok found →
    (∀ candidate ∈ candidates, candidate.address ≠ actualAddress) →
      remoteNonceCandidates client actualAddress remoteDomainId scopeKey policies candidates =
        .ok (chooseCandidate actualAddress (candidates ++ found.reduceOption))
  | [], found, candidates, h, hother => by
    rw [List.mapM_nil] at h
    cases h
    have hnone : candidates.find? (fun candidate => candidate.address = actualAddress) = none := by
      simpa using hother
    rw [List.reduceOption_nil, List.append_nil]
    unfold remoteNonceCandidates chooseCandidate
    rw [hnone]
    match candidates with
    | [] => rfl
    | [_] => rfl
    | _ :: _ :: _ => rfl
  | policy :: policies, found, candidates, h, hother => by
    rw [List.mapM_cons] at h
    obtain ⟨candidate, hcandidate, h⟩ := Except.bind_eq_ok.1 h
    obtain ⟨found, hfound, hret⟩ := Except.bind_eq_ok.1 h
    cases hret
    obtain ⟨policyDomainId, hdomain, hcandidate⟩ := Except.bind_eq_ok.1 hcandidate
    rw [remoteNonceCandidates, Except.bind_of_ok hdomain]
    split at hcandidate
    · rename_i hdiffers
      cases hcandidate
      rw [if_pos hdiffers, remoteNonceCandidates_eq hfound hother, List.reduceOption_cons_of_none]
    · rename_i hsame
      obtain ⟨remoteChainKind, hkind, hcandidate⟩ := Except.bind_eq_ok.1 hcandidate
      obtain ⟨derived, hderived, hret⟩ := Except.bind_eq_ok.1 hcandidate
      cases hret
      rw [if_neg hsame, Except.bind_of_ok hkind, Except.bind_of_ok hderived,
        List.reduceOption_cons_of_some]
      by_cases haddress : derived.address = actualAddress
      · have hfirst : (candidates ++ derived :: found.reduceOption).find?
            (fun candidate => candidate.address = actualAddress) = some derived := by
          rw [List.find?_append, List.find?_eq_none.2 (by simpa using hother), List.find?_cons,
            decide_eq_true haddress]
          rfl
        rw [if_pos haddress]
        unfold chooseCandidate
        rw [hfirst]
        rfl
      · have hothers : ∀ candidate ∈ candidates ++ [derived],
            candidate.address ≠ actualAddress := by
          intro other hmem
          rcases List.mem_append.1 hmem with hmem | hmem
          · exact hother other hmem
          · rw [List.mem_singleton.1 hmem]
            exact haddress
        rw [if_neg haddress, remoteNonceCandidates_eq hfound hothers, List.append_assoc]
        rfl

/-- The choice does not look at the order, when no two candidates have one address. -/
theorem chooseCandidate_perm {actualAddress : PublicKey}
    {candidates candidates' : List NamedProgramAddress} (hperm : candidates.Perm candidates')
    (hdistinct : ∀ a ∈ candidates, ∀ b ∈ candidates, a.address = b.address → a = b) :
    chooseCandidate actualAddress candidates = chooseCandidate actualAddress candidates' := by
  unfold chooseCandidate
  cases hfind : candidates.find? fun candidate => candidate.address = actualAddress with
  | some candidate =>
    have haddress : candidate.address = actualAddress := by simpa using List.find?_some hfind
    have hmem := List.mem_of_find?_eq_some hfind
    cases hfind' : candidates'.find? fun candidate => candidate.address = actualAddress with
    | some candidate' =>
      have haddress' : candidate'.address = actualAddress := by simpa using List.find?_some hfind'
      have hmem' := hperm.mem_iff.2 (List.mem_of_find?_eq_some hfind')
      rw [hdistinct candidate hmem candidate' hmem' (haddress.trans haddress'.symm)]
    | none =>
      have hnone := List.find?_eq_none.1 hfind' candidate (hperm.mem_iff.1 hmem)
      exact absurd haddress (by simpa using hnone)
  | none =>
    have hnone : candidates'.find? (fun candidate => candidate.address = actualAddress) = none := by
      rw [List.find?_eq_none] at hfind ⊢
      exact fun candidate hmem => hfind candidate (hperm.mem_iff.2 hmem)
    rw [hnone]
    match candidates, candidates', hperm with
    | [], [], _ => rfl
    | [candidate], _, hperm => rw [List.singleton_perm.1 hperm]
    | _ :: _ :: _, [], hperm => exact absurd hperm.length_eq (by simp)
    | _ :: _ :: _, [_], hperm => exact absurd hperm.length_eq (by simp)
    | _ :: _ :: _, _ :: _ :: _, _ => rfl
    | [], _ :: _, hperm => exact absurd hperm.length_eq (by simp)

/-! ## Remote nonces -/

/-- What the address of a remote nonce depends on. -/
structure RemoteNonceSeeds where
  remoteChainKind : Int
  remoteDomainId : Int
  scopeKey : Bytes
  deriving DecidableEq

/-- The address of the seeds. -/
def RemoteNonceSeeds.derive (client : ChanceryClient) (seeds : RemoteNonceSeeds) :
    Except String NamedProgramAddress :=
  Named.deriveRemoteNonceAddress client seeds.remoteChainKind seeds.remoteDomainId seeds.scopeKey

/-- The values of the listed accounts of a type. -/
def valuesOfType (client : ChanceryClient) (programAccounts : List RpcAddressAccountInfo)
    (accountName : String) : List StructValues :=
  programAccounts.filterMap fun programAccount =>
    match decodeAccountWith client.language.dialect programAccount.account.data with
    | .ok decoded => if decoded.name = accountName then some decoded.values else none
    | .error _ => none

/-- The seeds that a nonce and a policy of its domain name. -/
def remoteNonceSeeds (L : Language) (nonce policy : StructValues) : Option RemoteNonceSeeds := do
  let remoteDomainId ← (requireBigIntField L nonce "remote_domain_id").toOption
  let scopeKey ← (requireBytes (nonce.lookup "scope_key") "remote nonce scope key" 32).toOption
  let policyDomainId ← (requireBigIntField L policy "remote_domain_id").toOption
  let remoteChainKind ← (requireNumberField L policy "remote_chain_kind").toOption
  if policyDomainId = remoteDomainId then some ⟨remoteChainKind, remoteDomainId, scopeKey⟩ else none

/-- The seeds of every listed nonce. -/
def listedNonceSeeds (client : ChanceryClient) (programAccounts : List RpcAddressAccountInfo) :
    List RemoteNonceSeeds :=
  (valuesOfType client programAccounts "RemoteNonce").flatMap fun nonce =>
    (valuesOfType client programAccounts "RemoteDomainPolicy").filterMap
      (remoteNonceSeeds client.language nonce)

/-- What discovery relies on of the digest: it leaves an address for the seeds of every listed
nonce, and gives different seeds different addresses. -/
structure NonceAddressesSound (client : ChanceryClient)
    (programAccounts : List RpcAddressAccountInfo) : Prop where
  found : ∀ seeds ∈ listedNonceSeeds client programAccounts, (seeds.derive client).toBool = true
  distinct : ∀ seeds ∈ listedNonceSeeds client programAccounts,
    ∀ seeds' ∈ listedNonceSeeds client programAccounts,
      ((seeds.derive client).toOption.map (·.address)) =
        ((seeds'.derive client).toOption.map (·.address)) → seeds = seeds'

section

variable {programAccounts programAccounts' : List RpcAddressAccountInfo}

theorem mem_valuesOfType {accountName : String} {values : StructValues} :
    values ∈ valuesOfType client programAccounts accountName ↔
      ∃ programAccount ∈ programAccounts, decodeAccountWith client.language.dialect
        programAccount.account.data = .ok ⟨accountName, values⟩ := by
  rw [valuesOfType, List.mem_filterMap]
  refine exists_congr fun programAccount => and_congr_right fun _ => ?_
  cases decodeAccountWith client.language.dialect programAccount.account.data with
  | error message => simp
  | ok decoded =>
    obtain ⟨name, decodedValues⟩ := decoded
    simp only [Option.ite_none_right_eq_some, Option.some.injEq, Except.ok.injEq,
      DecodedChanceryAccount.mk.injEq]

theorem mem_listedNonceSeeds_perm (hperm : programAccounts.Perm programAccounts')
    {seeds : RemoteNonceSeeds} : seeds ∈ listedNonceSeeds client programAccounts' ↔
      seeds ∈ listedNonceSeeds client programAccounts := by
  have hvalues : ∀ {accountName : String} {values : StructValues},
      values ∈ valuesOfType client programAccounts' accountName ↔
        values ∈ valuesOfType client programAccounts accountName :=
    (hperm.filterMap _).mem_iff.symm
  simp only [listedNonceSeeds, List.mem_flatMap, List.mem_filterMap, hvalues]

theorem NonceAddressesSound.perm (hperm : programAccounts.Perm programAccounts')
    (h : NonceAddressesSound client programAccounts) :
    NonceAddressesSound client programAccounts' where
  found seeds hseeds := h.found seeds ((mem_listedNonceSeeds_perm hperm).1 hseeds)
  distinct seeds hseeds seeds' hseeds' :=
    h.distinct seeds ((mem_listedNonceSeeds_perm hperm).1 hseeds) seeds'
      ((mem_listedNonceSeeds_perm hperm).1 hseeds')

theorem read_remoteNonce {nonce : StructValues} {accountName : String}
    (h : nonce ∈ valuesOfType client programAccounts accountName)
    (hname : accountName = "RemoteNonce") :
    ∃ (remoteDomainId : Int) (scopeKey : Bytes),
      requireBigIntField client.language nonce "remote_domain_id" = .ok remoteDomainId ∧
      requireBytes (nonce.lookup "scope_key") "remote nonce scope key" 32 = .ok scopeKey := by
  subst hname
  obtain ⟨programAccount, _, hdecode⟩ := mem_valuesOfType.1 h
  obtain ⟨original, horiginal, rfl⟩ := decodedAs_typescript ⟨_, hdecode⟩
  obtain ⟨remoteDomainId, _, hdomain⟩ := read_unsigned "remote_domain_id" horiginal rfl
  obtain ⟨scopeKey, _, hscope⟩ := read_bytes "scope_key" horiginal rfl
  exact ⟨remoteDomainId, scopeKey, hdomain _, hscope _ _⟩

theorem read_remoteDomainPolicy {policy : StructValues}
    (h : policy ∈ valuesOfType client programAccounts "RemoteDomainPolicy") :
    ∃ policyDomainId remoteChainKind : Int,
      requireBigIntField client.language policy "remote_domain_id" = .ok policyDomainId ∧
      requireNumberField client.language policy "remote_chain_kind" = .ok remoteChainKind := by
  obtain ⟨programAccount, _, hdecode⟩ := mem_valuesOfType.1 h
  obtain ⟨original, horiginal, rfl⟩ := decodedAs_typescript ⟨_, hdecode⟩
  obtain ⟨policyDomainId, _, hdomain⟩ := read_unsigned "remote_domain_id" horiginal rfl
  obtain ⟨remoteChainKind, _, hkind⟩ := read_number "remote_chain_kind" horiginal rfl rfl
  exact ⟨policyDomainId, remoteChainKind, hdomain _, hkind _⟩

/-- Every policy of the nonce's domain has its candidate, from listed seeds. -/
theorem nonceCandidate_listed (hsound : NonceAddressesSound client programAccounts)
    {nonce : StructValues} (hnonce : nonce ∈ valuesOfType client programAccounts "RemoteNonce")
    {remoteDomainId : Int} {scopeKey : Bytes}
    (hdomain : requireBigIntField client.language nonce "remote_domain_id" = .ok remoteDomainId)
    (hscope : requireBytes (nonce.lookup "scope_key") "remote nonce scope key" 32 = .ok scopeKey)
    {policy : DiscoveredChanceryAccount}
    (hpolicy : policy.values ∈ valuesOfType client programAccounts "RemoteDomainPolicy") :
    ∃ found, nonceCandidate client remoteDomainId scopeKey policy = .ok found ∧
      ∀ candidate, found = some candidate →
        ∃ seeds ∈ listedNonceSeeds client programAccounts, seeds.derive client = .ok candidate := by
  obtain ⟨policyDomainId, remoteChainKind, hpolicyDomain, hkind⟩ := read_remoteDomainPolicy hpolicy
  unfold nonceCandidate
  rw [Except.bind_of_ok hpolicyDomain]
  by_cases hsame : policyDomainId = remoteDomainId
  · have hseeds : remoteNonceSeeds client.language nonce policy.values =
        some ⟨remoteChainKind, remoteDomainId, scopeKey⟩ := by
      simp [remoteNonceSeeds, hdomain, hscope, hpolicyDomain, hkind, hsame, Except.toOption]
    have hlisted : ⟨remoteChainKind, remoteDomainId, scopeKey⟩ ∈
        listedNonceSeeds client programAccounts :=
      List.mem_flatMap.2 ⟨nonce, hnonce, List.mem_filterMap.2 ⟨policy.values, hpolicy, hseeds⟩⟩
    obtain ⟨candidate, hcandidate⟩ := Except.exists_of_toBool (hsound.found _ hlisted)
    have hderive : Named.deriveRemoteNonceAddress client remoteChainKind remoteDomainId scopeKey =
      .ok candidate := hcandidate
    refine ⟨some candidate, ?_, ?_⟩
    · rw [if_neg (not_not.2 hsame), Except.bind_of_ok hkind, Except.bind_of_ok hderive]
      rfl
    · intro other hsome
      cases hsome
      exact ⟨_, hlisted, hcandidate⟩
  · refine ⟨none, if_pos hsame, ?_⟩
    rintro _ hnone
    cases hnone

/-- **The address of a nonce does not depend on the order of the policies.** -/
theorem deriveRemoteNonceCanonicalPda_perm (hsound : NonceAddressesSound client programAccounts)
    {nonce : StructValues} (hnonce : nonce ∈ valuesOfType client programAccounts "RemoteNonce")
    {policies policies' : List DiscoveredChanceryAccount} (hperm : policies.Perm policies')
    (hpolicies : ∀ policy ∈ policies,
      policy.values ∈ valuesOfType client programAccounts "RemoteDomainPolicy")
    (actualAddress : PublicKey) :
    deriveRemoteNonceCanonicalPda client actualAddress nonce policies =
      deriveRemoteNonceCanonicalPda client actualAddress nonce policies' := by
  obtain ⟨remoteDomainId, scopeKey, hdomain, hscope⟩ := read_remoteNonce hnonce rfl
  have hcandidate := fun policy hpolicy =>
    nonceCandidate_listed hsound hnonce hdomain hscope (hpolicies policy hpolicy)
  obtain ⟨found, hfound⟩ := Except.exists_mapM fun policy hpolicy =>
    (hcandidate policy hpolicy).imp fun _ h => h.1
  obtain ⟨found', hfound', hfoundPerm⟩ := Except.mapM_perm hperm hfound
  have hlisted : ∀ candidate ∈ found.reduceOption,
      ∃ seeds ∈ listedNonceSeeds client programAccounts, seeds.derive client = .ok candidate := by
    intro candidate hmem
    obtain ⟨policy, hpolicy, hsome⟩ :=
      forall₂_exists_left (Except.mapM_eq_ok.1 hfound) _ (List.reduceOption_mem_iff.1 hmem)
    obtain ⟨result, hresult, hseeds⟩ := hcandidate policy hpolicy
    rw [hsome] at hresult
    exact hseeds candidate (Except.ok.inj hresult).symm
  have hdistinct : ∀ a ∈ found.reduceOption, ∀ b ∈ found.reduceOption,
      a.address = b.address → a = b := by
    intro a ha b hb haddress
    obtain ⟨seeds, hseeds, hderive⟩ := hlisted a ha
    obtain ⟨seeds', hseeds', hderive'⟩ := hlisted b hb
    have hsame : seeds = seeds' := hsound.distinct seeds hseeds seeds' hseeds' (by
      rw [hderive, hderive']
      exact congrArg some haddress)
    rw [hsame, hderive'] at hderive
    exact (Except.ok.inj hderive).symm
  unfold deriveRemoteNonceCanonicalPda
  rw [Except.bind_of_ok hdomain, Except.bind_of_ok hdomain, Except.bind_of_ok hscope,
    Except.bind_of_ok hscope, remoteNonceCandidates_eq hfound (by simp),
    remoteNonceCandidates_eq hfound' (by simp), List.nil_append, List.nil_append]
  exact congrArg Except.ok (chooseCandidate_perm (hfoundPerm.filterMap id) hdistinct)

end

/-! ## Both passes -/

/-- The accounts of the first pass decode as they are listed. -/
theorem values_mem_valuesOfType {programAccounts : List RpcAddressAccountInfo}
    {outcomes : List (DiscoveredChanceryAccount ⊕ UnrecognizedChanceryAccount)}
    (h : List.Forall₂ (RecognizedAs client) programAccounts outcomes)
    {account : DiscoveredChanceryAccount} (hmem : account ∈ outcomes.filterMap Sum.getLeft?) :
    account.values ∈ valuesOfType client programAccounts account.name := by
  obtain ⟨outcome, houtcome, hleft⟩ := List.mem_filterMap.1 hmem
  obtain ⟨programAccount, hprogram, hrecognized⟩ := forall₂_exists_left h outcome houtcome
  rw [Sum.getLeft?_eq_some_iff] at hleft
  subst hleft
  exact mem_valuesOfType.2 ⟨programAccount, hprogram, hrecognized.2.2.2.2⟩

theorem resolveRemoteNonce_perm {programAccounts : List RpcAddressAccountInfo}
    (hsound : NonceAddressesSound client programAccounts)
    {policies policies' : List DiscoveredChanceryAccount} (hperm : policies.Perm policies')
    (hpolicies : ∀ policy ∈ policies,
      policy.values ∈ valuesOfType client programAccounts "RemoteDomainPolicy")
    {account : DiscoveredChanceryAccount}
    (haccount : account.values ∈ valuesOfType client programAccounts account.name) :
    resolveRemoteNonce client policies account = resolveRemoteNonce client policies' account := by
  unfold resolveRemoteNonce
  split
  · rfl
  · rename_i hname
    rw [not_not.1 hname] at haccount ⊢
    unfold observeCanonicalPda
    rw [if_pos rfl, if_pos rfl,
      deriveRemoteNonceCanonicalPda_perm hsound haccount hperm hpolicies account.address]

/-- Accounts with different addresses compare different. -/
theorem compareDiscoveredAccounts_eq {L : Language} {left right : DiscoveredChanceryAccount}
    (h : compareDiscoveredAccounts L left right = .eq) : left.address = right.address :=
  (compareAddresses_eq_iff L left.address right.address).1 (Ordering.then_eq_eq.1 h).2

instance (L : Language) : Std.TransCmp (compareDiscoveredAccounts L) :=
  inferInstanceAs (Std.TransCmp (compareLex
    (fun left right : DiscoveredChanceryAccount => compareTexts L left.name right.name)
    (fun left right => compareTexts L left.address.toBase58 right.address.toBase58)))

theorem recognizedAndUnrecognized_perm {programAccounts programAccounts' : List RpcAddressAccountInfo}
    (hperm : programAccounts.Perm programAccounts')
    (hnodup : (programAccounts.map (·.address)).Nodup)
    (hsound : NonceAddressesSound client programAccounts)
    {result : List DiscoveredChanceryAccount × List UnrecognizedChanceryAccount}
    (h : recognizedAndUnrecognized client programAccounts = .ok result) :
    recognizedAndUnrecognized client programAccounts' = .ok result := by
  have hsorted := recognizedAndUnrecognized_sorted h
  have haddresses := hsorted.once.nodup_iff.2 hnodup
  obtain ⟨outcomes, houtcomes, h⟩ := Except.bind_eq_ok.1 h
  obtain ⟨resolved, hresolved, hret⟩ := Except.bind_eq_ok.1 h
  cases hret
  obtain ⟨outcomes', houtcomes', houtcomesPerm⟩ := Except.mapM_perm hperm houtcomes
  have hrecognizedAs := (Except.mapM_eq_ok.1 houtcomes).imp fun _ _ => recognizeAccount_ok
  have hrecognized := houtcomesPerm.filterMap Sum.getLeft?
  have hpolicies := hrecognized.filter fun account => account.name = "RemoteDomainPolicy"
  obtain ⟨resolved', hresolved', hresolvedPerm⟩ := Except.mapM_perm hrecognized hresolved
  have hlisted : ∀ policy ∈ (outcomes.filterMap Sum.getLeft?).filter
      (fun account => account.name = "RemoteDomainPolicy"),
      policy.values ∈ valuesOfType client programAccounts "RemoteDomainPolicy" := by
    intro policy hpolicy
    obtain ⟨hmem, hname⟩ := List.mem_filter.1 hpolicy
    rw [← of_decide_eq_true hname]
    exact values_mem_valuesOfType hrecognizedAs hmem
  have hresolve : (outcomes'.filterMap Sum.getLeft?).mapM (resolveRemoteNonce client
      ((outcomes'.filterMap Sum.getLeft?).filter fun account =>
        account.name = "RemoteDomainPolicy")) = .ok resolved' := by
    rw [← hresolved']
    exact Except.mapM_congr fun account haccount =>
      (resolveRemoteNonce_perm hsound hpolicies hlisted
        (values_mem_valuesOfType hrecognizedAs (hrecognized.mem_iff.2 haccount))).symm
  have hleft : (resolved.map (·.address)).Nodup :=
    ((StableSort.sortBy_perm _ resolved).map _).nodup_iff.1 (List.nodup_append.1 haddresses).1
  have hright : ((outcomes.filterMap Sum.getRight?).map (·.address)).Nodup :=
    ((StableSort.sortBy_perm _ _).map _).nodup_iff.1 (List.nodup_append.1 haddresses).2.1
  have hrecognizedSort : StableSort.sortBy (compareDiscoveredAccounts client.language) resolved =
      StableSort.sortBy (compareDiscoveredAccounts client.language) resolved' :=
    StableSort.sortBy_eq_of_perm hresolvedPerm fun a ha b hb heq =>
      List.inj_on_of_nodup_map hleft ha hb (compareDiscoveredAccounts_eq heq)
  have hunrecognizedSort := StableSort.sortBy_eq_of_perm
    (houtcomesPerm.filterMap Sum.getRight?) fun a ha b hb heq =>
      List.inj_on_of_nodup_map hright ha hb
        ((compareAddresses_eq_iff client.language a.address b.address).1 heq)
  unfold recognizedAndUnrecognized
  rw [Except.bind_of_ok houtcomes', Except.bind_of_ok hresolve, hrecognizedSort, hunrecognizedSort]
  rfl

theorem discover_perm {programAccounts programAccounts' : List RpcAddressAccountInfo}
    (hperm : programAccounts.Perm programAccounts')
    (hnodup : (programAccounts.map (·.address)).Nodup)
    (hsound : NonceAddressesSound client programAccounts) {discovery : ChanceryStateDiscovery}
    (h : discover client programAccounts = .ok discovery) :
    discover client programAccounts' = .ok discovery := by
  obtain ⟨result, hresult, h⟩ := Except.bind_eq_ok.1 h
  unfold discover
  rw [Except.bind_of_ok (recognizedAndUnrecognized_perm hperm hnodup hsound hresult),
    ← hperm.length_eq]
  exact h

/-! ## The order of a listing -/

theorem run_discoverChanceryState {node : (request : RpcRequest) → request.Answer}
    {programAccounts : List RpcAddressAccountInfo}
    (h : node (.getProgramAccounts client.deployment.programAddress [] client.commitment) =
      .ok programAccounts) :
    (discoverChanceryState client).run node = discover client programAccounts := by
  have hrequest : (getProgramAccounts client.deployment.programAddress [] client.commitment).run
      node = .ok programAccounts := h
  rw [discoverChanceryState, Interaction.run_bind, hrequest]
  rfl

/-- **A discovery depends on what is listed, not on the order, and it is complete.** -/
theorem discovery_orderFree (client : ChanceryClient)
    {node node' : (request : RpcRequest) → request.Answer}
    {programAccounts programAccounts' : List RpcAddressAccountInfo}
    (hlisted : node (.getProgramAccounts client.deployment.programAddress [] client.commitment) =
      .ok programAccounts)
    (hlisted' : node' (.getProgramAccounts client.deployment.programAddress [] client.commitment) =
      .ok programAccounts')
    (hperm : programAccounts.Perm programAccounts')
    (hnodup : (programAccounts.map (·.address)).Nodup)
    (hsound : NonceAddressesSound client programAccounts) :
    ((discoverChanceryState client).run node).toOption =
        ((discoverChanceryState client).run node').toOption ∧
      ∀ discovery, (discoverChanceryState client).run node = .ok discovery →
        DiscoveryComplete client programAccounts discovery := by
  rw [run_discoverChanceryState hlisted, run_discoverChanceryState hlisted']
  refine ⟨Except.toOption_eq_of_ok_iff fun discovery => ⟨?_, ?_⟩, fun _ => discover_complete⟩
  · exact discover_perm hperm hnodup hsound
  · exact discover_perm hperm.symm ((hperm.map _).nodup_iff.1 hnodup) (hsound.perm hperm)

namespace Sample

def remoteDomainPolicy (address : UInt8) (remoteChainKind : Int) : RpcAddressAccountInfo where
  address := key address
  account := state "RemoteDomainPolicy"
    [("remote_chain_kind", .number remoteChainKind), ("remote_domain_id", .bigint 8)]

/-- At the address that the chain kind 2 gives it. -/
def remoteNonce : RpcAddressAccountInfo where
  address := address
    [20, 195, 224, 19, 213, 19, 66, 89, 202, 70, 57, 90, 23, 52, 97, 205, 234, 77, 15, 138, 109,
     148, 233, 0, 230, 77, 95, 55, 235, 15, 45, 42]
  account := state "RemoteNonce"
    [("remote_domain_id", .bigint 8), ("scope_key", .bytes (key 3).bytes)]

/-- A nonce with the policies of two domains. -/
def remoteAccounts : List RpcAddressAccountInfo :=
  [remoteNonce, remoteDomainPolicy 21 1, remoteDomainPolicy 22 2]

/-- A node that lists the accounts, and answers nothing else. -/
def listing (programAccounts : List RpcAddressAccountInfo) :
    (request : RpcRequest) → request.Answer
  | .getProgramAccounts _ _ _ => .ok programAccounts
  | .getSlot _ => .error "Not found"
  | .getAccountInfo _ _ => .error "Not found"
  | .bothAccountInfos _ _ _ => (.error "Not found", .error "Not found")
  | .getTokenAccountsByOwner _ _ _ => .error "Not found"

theorem remoteAccounts_sound :
    NonceAddressesSound (Sample.client .typescript) remoteAccounts where
  found := by decide +kernel
  distinct := by
    have hnodup : ((listedNonceSeeds (Sample.client .typescript) remoteAccounts).map fun seeds =>
        (seeds.derive (Sample.client .typescript)).toOption.map (·.address)).Nodup := by
      decide +kernel
    exact fun _ hseeds _ hseeds' haddress => List.inj_on_of_nodup_map hnodup hseeds hseeds' haddress

end Sample

/-- A nonce and the policies of its domain, in two orders. -/
theorem discovery_orderFree_remote :
    ∃ discovery, (discoverChanceryState (Sample.client .typescript)).run
        (Sample.listing Sample.remoteAccounts) = .ok discovery ∧
      (discoverChanceryState (Sample.client .typescript)).run
        (Sample.listing Sample.remoteAccounts.reverse) = .ok discovery ∧
      DiscoveryComplete (Sample.client .typescript) Sample.remoteAccounts discovery ∧
      discovery.recognizedAccounts.any (fun account => account.name = "RemoteNonce" ∧
        account.canonicalPda.any (·.addressMatches) = true) = true := by
  have hrun : ((discoverChanceryState (Sample.client .typescript)).run
      (Sample.listing Sample.remoteAccounts)).toOption.any (fun discovery =>
        discovery.recognizedAccounts.any fun account => account.name = "RemoteNonce" ∧
          account.canonicalPda.any (·.addressMatches) = true) = true := by
    decide +kernel
  obtain ⟨discovery, hdiscovery, hnonce⟩ := Except.exists_of_any hrun
  have hlisted : ∀ programAccounts, Sample.listing programAccounts (.getProgramAccounts
      (Sample.client .typescript).deployment.programAddress []
      (Sample.client .typescript).commitment) = .ok programAccounts := fun _ => rfl
  obtain ⟨hsame, hcomplete⟩ := discovery_orderFree (Sample.client .typescript)
    (hlisted Sample.remoteAccounts) (hlisted Sample.remoteAccounts.reverse)
    (List.reverse_perm Sample.remoteAccounts).symm (by decide +kernel) Sample.remoteAccounts_sound
  refine ⟨discovery, hdiscovery, ?_, hcomplete discovery hdiscovery, hnonce⟩
  rw [hdiscovery] at hsame
  exact Except.ok_of_toOption hsame.symm

end Chancery
