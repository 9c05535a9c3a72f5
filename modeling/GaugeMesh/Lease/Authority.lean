import GaugeMesh.Lease.MetaTools

/-! Lease authority over whole runs of the meta tools. A store holds what was issued to
its callers and what their owners have not released; a call that goes to the upstream has
read such a lease. -/
namespace GaugeMesh
open Json MeshServer

namespace MetaCall

/-- The owner of a lease gives it back. -/
def Releases (call : MetaCall) (lease : CapabilityLease) : Prop :=
  call.tool = .release ∧ call.leaseId = lease.id.text ∧ owns call.identity lease

end MetaCall

theorem readLease_ok {σ : Type} [LeaseStorage σ] {call : MetaCall} {s : σ}
    {lease : CapabilityLease} (read : readLease call s = .ok lease) :
    LeaseStorage.get s call.leaseId = .ok (some lease) := by
  obtain ⟨found,got,present⟩ := Except.bind_ok.mp read
  rw [mapError_ok] at got
  rw [okOr_ok] at present
  rw [got,present]

/-- An early answer goes nowhere. -/
def Early (result : Except MetaAnswer α) : Prop :=
  ∀ answer, result = .error answer → dispatched answer = none

namespace Early

theorem ok (a : α) : Early (.ok a) := nofun

theorem error {answer : MetaAnswer} (nowhere : dispatched answer = none) :
    Early (.error answer : Except MetaAnswer α) := fun _ same => Except.error.inj same ▸ nowhere

theorem bind {result : Except MetaAnswer α} {next : α → Except MetaAnswer β}
    (here : Early result) (later : ∀ a, result = .ok a → Early (next a)) :
    Early (result >>= next) := by
  rcases result with answer | a
  · exact error (here answer rfl)
  · exact later a rfl

theorem okOr (value : Option α) {answer : MetaAnswer} (nowhere : dispatched answer = none) :
    Early (GaugeMesh.okOr value answer) := by
  rcases value with _ | a
  · exact error nowhere
  · exact ok a

theorem reject (condition : Prop) [Decidable condition] {answer : MetaAnswer}
    (nowhere : dispatched answer = none) : Early (GaugeMesh.reject condition answer) := by
  by_cases holds : condition
  · simp only [GaugeMesh.reject,if_pos holds]
    exact error nowhere
  · simp only [GaugeMesh.reject,if_neg holds]
    exact ok ()

theorem mapError (result : Except ε α) {convert : ε → MetaAnswer}
    (nowhere : ∀ e, dispatched (convert e) = none) : Early (result.mapError convert) := by
  rcases result with e | a
  · exact error (nowhere e)
  · exact ok a

end Early

section
variable [FloatText] [Sha256]

/-- One of the calls issued the lease, and no later one released it. -/
structure Issued (server : MeshServer) (calls : List MetaCall) (lease : CapabilityLease)
    (call : MetaCall) (after : List MetaCall) : Prop where
  among : ∃ before, calls = before ++ call :: after
  tool : call.tool = .lease
  asked : ∃ ttl, server.leaseOf call = .ok (lease,ttl)
  kept : ∀ later ∈ after, ¬later.Releases lease

/-- What the lease that a call read says for what the call does. -/
structure Authorized (server : MeshServer) (calls : List MetaCall) (call : MetaCall)
    (lease : CapabilityLease) (now : Nat) (capability : CapabilityId)
    (effect : SideEffectClass) : Prop where
  issued : ∃ issuer after, Issued server calls lease issuer after ∧
    issuer.identity.principal = call.identity.principal ∧
    issuer.identity.tenant = call.identity.tenant
  clock : call.clock = some now
  unexpired : now < lease.expiresAtMonotonicMs
  capability : capability ∈ lease.capabilities
  sideEffect : effect ∈ lease.sideEffects
  scopes : identityAuthorizesEffect call.identity effect = true

theorem leaseOf_ok {server : MeshServer} {call : MetaCall} {lease : CapabilityLease} {ttl : Nat}
    (issued : server.leaseOf call = .ok (lease,ttl)) :
    lease.id.text = call.uuid ∧ lease.principal = call.identity.principal ∧
      lease.tenant = call.identity.tenant := by
  simp only [leaseOf,Except.bind_ok] at issued
  obtain ⟨aliases,-,-,-,-,-,effects,-,-,-,-,-,ttl,-,now,-,made⟩ := issued
  cases made
  exact ⟨rfl,rfl,rfl⟩

theorem authorizeCurrentInvocation_ok {lease : CapabilityLease} {identity : AuthenticatedIdentity}
    {capability : CapabilityId} {effect : SideEffectClass} {now : Nat}
    (authorized : authorizeCurrentInvocation lease identity capability effect now = .ok ()) :
    lease.Licenses identity.principal identity.tenant capability effect now ∧
      identityAuthorizesEffect identity effect = true := by
  simp only [authorizeCurrentInvocation,Except.then_ok,mapError_ok,reject_ok] at authorized
  exact ⟨CapabilityLease.authorizeInvocation_ok authorized.1,by simpa using authorized.2⟩

section
variable {server : MeshServer} {call : MetaCall} {tool : FederatedTool} {effect : SideEffectClass}

theorem leaseOf_early : Early (server.leaseOf call) :=
  .bind (.okOr _ rfl) fun _ _ => .bind (.reject _ rfl) fun _ _ => .bind (.reject _ rfl) fun _ _ =>
    .bind (.mapError _ fun _ => rfl) fun _ _ => .bind (.reject _ rfl) fun _ _ =>
      .bind (.reject _ rfl) fun _ _ => .bind (.mapError _ fun _ => rfl) fun _ _ =>
        .bind (.okOr _ rfl) fun _ _ => .ok _

variable {σ : Type} [LeaseStorage σ] {s : σ}

omit [FloatText] [Sha256] in
theorem readLease_early : Early (readLease call s) :=
  .bind (.mapError _ fun _ => rfl) fun _ _ => .okOr _ rfl

theorem gaugemeshInvoke_early : Early (server.gaugemeshInvoke call s) :=
  .bind (.okOr _ rfl) fun _ _ => .bind readLease_early fun _ _ => .bind (.okOr _ rfl) fun _ _ =>
    .bind (.mapError _ fun _ => rfl) fun _ _ => .ok _

theorem gaugemeshSubmit_early : Early (server.gaugemeshSubmit call s) :=
  .bind (.reject _ rfl) fun _ _ => .bind (.okOr _ rfl) fun _ _ => .bind (.okOr _ rfl) fun _ _ =>
    .bind (.okOr _ rfl) fun _ _ => .bind (.okOr _ rfl) fun _ _ => .bind (.reject _ rfl) fun _ _ =>
      .bind readLease_early fun _ _ => .bind (.okOr _ rfl) fun _ _ =>
        .bind (.mapError _ fun _ => rfl) fun _ _ => .ok _

omit [FloatText] [Sha256] in
/-- An answer that goes to the upstream is no early one. -/
theorem answered_dispatched {result : Except MetaAnswer MetaAnswer} (early : Early result)
    (reached : dispatched (answered result) = some (tool,effect)) :
    ∃ answer, result = .ok answer ∧ dispatched answer = some (tool,effect) := by
  rcases result with answer | answer
  · have nowhere : dispatched answer = none := early answer rfl
    rw [answered,nowhere] at reached
    cases reached
  · exact ⟨answer,rfl,reached⟩

/-- Issuing and releasing go nowhere. -/
theorem gaugemeshLease_stays : dispatched (server.gaugemeshLease call s).1 = none := by
  rw [gaugemeshLease]
  split
  · next answer refused => exact leaseOf_early answer refused
  · split <;> rfl

omit [FloatText] [Sha256] in
theorem gaugemeshRelease_stays : dispatched (gaugemeshRelease call s).1 = none := by
  rw [gaugemeshRelease]
  split
  · rfl
  · dsimp only
    split
    · rfl
    · split <;> rfl

theorem invokeTool_dispatched {found : FederatedTool} {arguments : Option JsonObject}
    (reached : dispatched (server.invokeTool found arguments) = some (tool,effect)) :
    tool = found ∧ effect = found.sideEffect := by
  rw [invokeTool] at reached
  split at reached
  · cases reached
  · split at reached
    · cases reached
    · cases reached
      exact ⟨rfl,rfl⟩

/-- A call goes to the upstream with what the lease it read licenses. -/
theorem reaches_upstream
    (reached : dispatched (server.callMetaTool call s).1 = some (tool,effect)) :
    ∃ lease now, LeaseStorage.get s call.leaseId = .ok (some lease) ∧ call.clock = some now ∧
      lease.Licenses call.identity.principal call.identity.tenant tool.identity effect now ∧
      identityAuthorizesEffect call.identity effect = true := by
  rw [callMetaTool] at reached
  split at reached
  · rw [gaugemeshLease_stays] at reached
    cases reached
  · obtain ⟨answer,passed,goes⟩ := answered_dispatched gaugemeshInvoke_early reached
    simp only [gaugemeshInvoke,Except.bind_ok,okOr_ok,mapError_ok] at passed
    obtain ⟨found,-,lease,read,now,clock,_,authorized,same⟩ := passed
    cases same
    obtain ⟨rfl,rfl⟩ := invokeTool_dispatched goes
    exact ⟨lease,now,readLease_ok read,clock,authorizeCurrentInvocation_ok authorized⟩
  · obtain ⟨answer,passed,goes⟩ := answered_dispatched gaugemeshSubmit_early reached
    simp only [gaugemeshSubmit,Except.bind_ok,okOr_ok,mapError_ok] at passed
    obtain ⟨-,-,_,-,_,-,_,-,found,-,-,-,lease,read,now,clock,_,authorized,same⟩ := passed
    cases same
    cases goes
    exact ⟨lease,now,readLease_ok read,clock,authorizeCurrentInvocation_ok authorized⟩
  · rw [gaugemeshRelease_stays] at reached
    cases reached

variable [LawfulLeaseStorage σ] {leases : Leases}

/-- What a call makes of the leases of a store. -/
inductive Effect (server : MeshServer) (call : MetaCall) (s : σ) (leases : Leases) : Leases → Prop
  | kept (unreleased : ∀ lease, LeaseStorage.get s lease.id.text = .ok (some lease) →
      ¬call.Releases lease) : Effect server call s leases leases
  | issued (tool : call.tool = .lease) (asked : server.leaseOf call = .ok (lease,ttl)) :
      Effect server call s leases (Function.update leases call.uuid (some lease))
  | released (owned : ∀ lease, leases call.leaseId = some lease →
      LeaseStorage.get s call.leaseId = .ok (some lease) ∧ owns call.identity lease) :
      Effect server call s leases (Function.update leases call.leaseId none)

omit [FloatText] [Sha256] in
theorem other_tool {lease : CapabilityLease} (tool : call.tool ≠ .release) :
    ¬call.Releases lease := fun releases => tool releases.1

theorem gaugemeshLease_effect (tool : call.tool = .lease)
    (represents : LawfulLeaseStorage.Represents s leases) :
    ∃ next, LawfulLeaseStorage.Represents (server.gaugemeshLease call s).2 next ∧
      Effect server call s leases next := by
  rw [gaugemeshLease]
  split
  · exact ⟨leases,represents,.kept fun _ _ => other_tool (by rw [tool]; decide)⟩
  · next lease ttl asked =>
    obtain ⟨written,stored⟩ : (LeaseStorage.put lease s).1 = .ok () ∧ _ :=
      LawfulLeaseStorage.put represents
    have named := (leaseOf_ok asked).1
    rw [named] at stored
    split
    · next failed _ put =>
      rw [put] at written
      cases written
    · next after put =>
      rw [put] at stored
      exact ⟨_,stored,.issued tool asked⟩

theorem gaugemeshRelease_effect (represents : LawfulLeaseStorage.Represents s leases) :
    ∃ next, LawfulLeaseStorage.Represents (gaugemeshRelease call s).2 next ∧
      Effect server call s leases next := by
  rw [gaugemeshRelease]
  split
  · next failed unread =>
    refine ⟨leases,represents,.kept fun lease got releases => ?_⟩
    rw [← releases.2.1,unread] at got
    cases got
  · next found got =>
    have held : found = leases call.leaseId := by
      rw [LawfulLeaseStorage.get represents] at got
      exact LawfulLeaseStorage.read_ok got
    dsimp only
    split
    · next refused =>
      refine ⟨leases,represents,.kept fun lease read releases => refused.2 ?_⟩
      rw [← releases.2.1,got] at read
      cases read
      exact releases.2.2
    · next allowed =>
      obtain ⟨done,removed⟩ := LawfulLeaseStorage.remove (i := call.leaseId) represents
      have owned : ∀ lease, leases call.leaseId = some lease →
          LeaseStorage.get s call.leaseId = .ok (some lease) ∧ owns call.identity lease := by
        intro lease present
        rw [held,present] at allowed got
        exact ⟨got,by simpa using allowed⟩
      split
      · next failed _ put =>
        rw [put] at done
        cases done
      · next after put =>
        rw [put] at removed
        exact ⟨_,removed,.released owned⟩

theorem callMetaTool_effect (server : MeshServer) (call : MetaCall)
    (represents : LawfulLeaseStorage.Represents s leases) :
    ∃ next, LawfulLeaseStorage.Represents (server.callMetaTool call s).2 next ∧
      Effect server call s leases next := by
  rw [callMetaTool]
  split
  · next tool => exact gaugemeshLease_effect tool represents
  · next tool =>
    exact ⟨leases,represents,.kept fun _ _ => other_tool (by rw [tool]; decide)⟩
  · next tool =>
    exact ⟨leases,represents,.kept fun _ _ => other_tool (by rw [tool]; decide)⟩
  · exact gaugemeshRelease_effect represents

/-- What a store holds after some calls was issued by one of them and is not released. -/
structure Held (server : MeshServer) (calls : List MetaCall) (s : σ) (leases : Leases) : Prop where
  represents : LawfulLeaseStorage.Represents s leases
  named : leases i = some lease → lease.id.text = i ∧ ∃ call ∈ calls, call.uuid = i
  issued : LeaseStorage.get s i = .ok (some lease) →
    ∃ issuer after, Issued server calls lease issuer after

theorem Issued.later {calls after : List MetaCall} {lease : CapabilityLease} {issuer : MetaCall}
    (issued : Issued server calls lease issuer after) (kept : ¬call.Releases lease) :
    Issued server (calls ++ [call]) lease issuer (after ++ [call]) := by
  obtain ⟨before,rfl⟩ := issued.among
  refine ⟨⟨before,by simp⟩,issued.tool,issued.asked,fun later among => ?_⟩
  rcases List.mem_append.mp among with earlier | last
  · exact issued.kept later earlier
  · rw [List.mem_singleton.mp last]
    exact kept

theorem Held.get {calls : List MetaCall} (held : Held server calls s leases)
    (got : LeaseStorage.get s i = .ok (some lease)) : leases i = some lease := by
  rw [LawfulLeaseStorage.get held.represents] at got
  exact (LawfulLeaseStorage.read_ok got).symm

omit [FloatText] [Sha256] in
/-- A lease that a call neither issued nor removed is read as before. -/
theorem get_unchanged {s' : σ} {next : Leases} (represents : LawfulLeaseStorage.Represents s leases)
    (represents' : LawfulLeaseStorage.Represents s' next) (same : next i = leases i) :
    LeaseStorage.get s' i = LeaseStorage.get s i := by
  rw [LawfulLeaseStorage.get represents',LawfulLeaseStorage.get represents,same]

theorem Held.step {calls : List MetaCall} (held : Held server calls s leases) {s' : σ}
    {next : Leases} (represents : LawfulLeaseStorage.Represents s' next)
    (effect : Effect server call s leases next) : Held server (calls ++ [call]) s' next := by
  have earlier : ∀ {i lease}, leases i = some lease →
      lease.id.text = i ∧ ∃ other ∈ calls ++ [call], other.uuid = i := fun present =>
    let ⟨named,other,among,drawn⟩ := held.named present
    ⟨named,other,List.mem_append_left _ among,drawn⟩
  -- A lease that was there stays issued, unless its owner gives it back.
  have still : ∀ {i lease}, next i = leases i → ¬call.Releases lease →
      LeaseStorage.get s' i = .ok (some lease) →
      ∃ issuer after, Issued server (calls ++ [call]) lease issuer after := by
    intro i lease same kept got
    rw [get_unchanged held.represents represents same] at got
    obtain ⟨issuer,after,issued⟩ := held.issued got
    exact ⟨issuer,_,issued.later kept⟩
  cases effect with
  | kept unreleased =>
    refine ⟨represents,earlier,fun {i lease} got => still rfl ?_ got⟩
    rw [get_unchanged held.represents represents rfl] at got
    refine unreleased lease ?_
    rw [(held.named (held.get got)).1]
    exact got
  | @issued lease ttl tool asked =>
    refine ⟨represents,fun {i found} present => ?_,fun {i found} got => ?_⟩
    · by_cases same : i = call.uuid
      · subst same
        rw [Function.update_self] at present
        cases present
        exact ⟨(leaseOf_ok asked).1,call,by simp,rfl⟩
      · rw [Function.update_of_ne same] at present
        exact earlier present
    · by_cases same : i = call.uuid
      · subst same
        rw [LawfulLeaseStorage.get represents,Function.update_self] at got
        cases LawfulLeaseStorage.read_ok got
        exact ⟨call,[],⟨calls,rfl⟩,tool,⟨ttl,asked⟩,by simp⟩
      · exact still (Function.update_of_ne same _ _) (other_tool (by rw [tool]; decide)) got
  | released owned =>
    refine ⟨represents,fun {i found} present => ?_,fun {i found} got => ?_⟩
    · by_cases same : i = call.leaseId
      · subst same
        rw [Function.update_self] at present
        cases present
      · rw [Function.update_of_ne same] at present
        exact earlier present
    · by_cases same : i = call.leaseId
      · subst same
        rw [LawfulLeaseStorage.get represents,Function.update_self,LawfulLeaseStorage.read_none]
          at got
        cases got
      · refine still (Function.update_of_ne same _ _) (fun releases => same ?_) got
        rw [get_unchanged held.represents represents (Function.update_of_ne same _ _)] at got
        rw [releases.2.1,(held.named (held.get got)).1]

/-- Whatever was called, the store holds what was issued and not released. -/
theorem callAll_held (server : MeshServer) (calls : List MetaCall) :
    ∃ leases, Held server calls (server.callAll calls (LeaseStorage.empty : σ)) leases := by
  induction calls using List.reverseRecOn with
  | nil =>
    refine ⟨_,LawfulLeaseStorage.empty,nofun,fun {i lease} got => ?_⟩
    change LeaseStorage.get LeaseStorage.empty i = _ at got
    rw [LawfulLeaseStorage.get LawfulLeaseStorage.empty,LawfulLeaseStorage.read_none] at got
    cases got
  | append_singleton calls call ih =>
    obtain ⟨leases,held⟩ := ih
    obtain ⟨next,represents,effect⟩ := callMetaTool_effect server call held.represents
    refine ⟨next,?_⟩
    rw [callAll,List.foldl_append]
    exact held.step represents effect

/-- Over every sequence of calls: what goes to the upstream does so under a lease that was
issued to its caller, is not released, unexpired and lists what is done, with scopes the
caller has now; and what the store answers for a lease, no other caller changes. -/
theorem lease_authority (server : MeshServer) (calls : List MetaCall) (call : MetaCall)
    (fresh : ∀ earlier ∈ calls, earlier.uuid ≠ call.uuid) :
    (∀ tool effect,
      dispatched (server.callMetaTool call (server.callAll calls (LeaseStorage.empty : σ))).1 =
        some (tool,effect) →
      ∃ lease now,
        LeaseStorage.get (server.callAll calls (LeaseStorage.empty : σ)) call.leaseId =
          .ok (some lease) ∧
        Authorized server calls call lease now tool.identity effect) ∧
    ∀ i, LeaseStorage.get (server.callAll calls (LeaseStorage.empty : σ)) i ≠ .ok none →
      (∀ lease, LeaseStorage.get (server.callAll calls (LeaseStorage.empty : σ)) i =
        .ok (some lease) → ¬owns call.identity lease) →
      LeaseStorage.get (server.callMetaTool call (server.callAll calls (LeaseStorage.empty : σ))).2 i =
        LeaseStorage.get (server.callAll calls (LeaseStorage.empty : σ)) i := by
  obtain ⟨leases,held⟩ : ∃ leases, Held server calls
      (server.callAll calls (LeaseStorage.empty : σ)) leases := callAll_held server calls
  generalize server.callAll calls (LeaseStorage.empty : σ) = s at held
  constructor
  · intro tool effect reached
    obtain ⟨lease,now,got,clock,licenses,scopes⟩ := reaches_upstream reached
    obtain ⟨issuer,after,issued⟩ := held.issued got
    obtain ⟨ttl,asked⟩ := issued.asked
    obtain ⟨-,principal,tenant⟩ := leaseOf_ok asked
    exact ⟨lease,now,got,⟨issuer,after,issued,by rw [licenses.principal,principal],
      by rw [licenses.tenant,tenant]⟩,clock,licenses.unexpired,licenses.capability,
      licenses.sideEffect,scopes⟩
  · intro i known others
    obtain ⟨next,represents,effect⟩ := callMetaTool_effect server call held.represents
    obtain ⟨lease,present⟩ : ∃ lease, leases i = some lease := by
      rcases there : leases i with _ | lease
      · rw [LawfulLeaseStorage.get held.represents,there,LawfulLeaseStorage.read_none] at known
        exact absurd rfl known
      · exact ⟨lease,rfl⟩
    refine get_unchanged held.represents represents ?_
    cases effect with
    | kept => rfl
    | issued =>
      obtain ⟨-,earlier,among,drawn⟩ := held.named present
      exact Function.update_of_ne (fun same => fresh earlier among (drawn.trans same)) _ _
    | released owned =>
      refine Function.update_of_ne (fun same => ?_) _ _
      subst same
      exact others lease (owned lease present).1 (owned lease present).2

end
end

section Example
open Reference

def leasedCapability : CapabilityId :=
  ⟨⟨"source"⟩,.tool,.default,.default,⟨"1"⟩,.default⟩

def leasedTool : FederatedTool := ⟨leasedCapability,"lookup",.null,.readOnly,.null⟩

def leaseServer : MeshServer := ⟨⟨[("lookup",leasedTool)]⟩,some fun _ => true,none⟩

def leaseHolder : AuthenticatedIdentity := ⟨⟨"alice"⟩,⟨"tenant-a"⟩,[]⟩

def leaseCall : MetaCall :=
  ⟨.lease,[("aliases",.array [.string "lookup"])],leaseHolder,true,some 1000,"lease-1"⟩

def invokeCall : MetaCall :=
  ⟨.invoke,[("alias",.string "lookup"),("leaseId",.string "lease-1")],leaseHolder,true,some 2000,"call"⟩

noncomputable def issuedLease : CapabilityLease :=
  .issueWithSideEffects ⟨"lease-1"⟩ ⟨"alice"⟩ ⟨"tenant-a"⟩ "mcp-request"
    ([leasedTool].map (·.identity)) ⟨∅⟩ (saturatingAdd 1000 60000) 0 4096 1 {.readOnly}

theorem issuedLease_issued : leaseServer.gaugemeshLease leaseCall MemoryLeases.empty =
    (.ok (.structured (leaseContent issuedLease 60000)),
      ⟨Finmap.insert "lease-1" issuedLease ∅⟩) := rfl

theorem issuedLease_stored : leaseServer.callAll [leaseCall] MemoryLeases.empty =
    ⟨Finmap.insert "lease-1" issuedLease ∅⟩ := by
  change (leaseServer.gaugemeshLease leaseCall MemoryLeases.empty).2 = _
  rw [issuedLease_issued]

theorem issuedLease_authorizes : authorizeCurrentInvocation issuedLease leaseHolder
    leasedCapability .readOnly 2000 = .ok () := by
  have scopes : identityAuthorizesEffect leaseHolder .readOnly = true := by decide
  have alive : ¬saturatingAdd 1000 60000 ≤ 2000 := by decide
  have authorized : issuedLease.authorizeInvocation leaseHolder.principal leaseHolder.tenant
      leasedCapability .readOnly 2000 = .ok () := by
    simp [CapabilityLease.authorizeInvocation,CapabilityLease.authorize,issuedLease,
      CapabilityLease.issueWithSideEffects,sortCapabilities,reject,leaseHolder,
      leasedTool,alive]
  rw [authorizeCurrentInvocation,authorized,scopes]
  rfl

theorem lease_authority_example :
    dispatched (leaseServer.callMetaTool invokeCall
      (leaseServer.callAll [leaseCall] MemoryLeases.empty)).1 = some (leasedTool,.readOnly) ∧
    ∃ lease now, Authorized leaseServer [leaseCall] invokeCall lease now leasedCapability .readOnly := by
  have read : readLease invokeCall (leaseServer.callAll [leaseCall] MemoryLeases.empty) =
      .ok issuedLease := by
    rw [issuedLease_stored]
    rfl
  have invoked : leaseServer.gaugemeshInvoke invokeCall
      (leaseServer.callAll [leaseCall] MemoryLeases.empty) =
        .ok (.ok (.callUpstream leasedTool none)) := by
    simp only [gaugemeshInvoke,Except.bind_ok,okOr_ok,mapError_ok]
    exact ⟨leasedTool,rfl,issuedLease,read,2000,rfl,(),issuedLease_authorizes,rfl⟩
  have reached : dispatched (leaseServer.callMetaTool invokeCall
      (leaseServer.callAll [leaseCall] MemoryLeases.empty)).1 = some (leasedTool,.readOnly) := by
    change dispatched (answered (leaseServer.gaugemeshInvoke invokeCall _)) = _
    rw [invoked]
    rfl
  have authority := @lease_authority _ _ MemoryLeases _ _ leaseServer [leaseCall] invokeCall
    (by decide)
  obtain ⟨lease,now,-,authorized⟩ := authority.1 leasedTool .readOnly reached
  exact ⟨reached,lease,now,authorized⟩

end Example
end GaugeMesh
