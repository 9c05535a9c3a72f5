import GaugeMesh.Capability
import GaugeMesh.Interleaving.Exchange
import GaugeMesh.Json.Reference
import GaugeMesh.Task.Transition
import Mathlib.Data.Finset.Insert
import Mathlib.Data.List.Chain

/-! `outbound.rs`: the lists of a source, asked for page after page. A source may answer any page
with any cursor; one budget of items and bytes is shared by all the lists of a discovery. -/
namespace GaugeMesh.Listing
open Json Interleaving

def maxDiscoveryPagesPerKind : Nat := 128
def maxDiscoveryItems : Nat := 4096
def maxDiscoveryAggregateBytes : Nat := 8 * 1024 * 1024
def maxDiscoveryCursorBytes : Nat := 4 * 1024

def itemLimit : String := "GM_MCP_UPSTREAM_DISCOVERY_ITEM_LIMIT"
def byteLimit : String := "GM_MCP_UPSTREAM_DISCOVERY_BYTE_LIMIT"
def pageLimit : String := "GM_MCP_UPSTREAM_DISCOVERY_PAGE_LIMIT"

structure DiscoveryBudget where
  items : Nat
  bytes : Nat

/-- The page comes as the bytes that `serde_json::to_vec` makes of it. -/
def DiscoveryBudget.chargePage (budget : DiscoveryBudget) (page : Except String (List UInt8))
    (itemCount : Nat) : Except String DiscoveryBudget := do
  let items ← okOr (checkedAdd budget.items itemCount) itemLimit
  reject (items > maxDiscoveryItems) itemLimit
  let text ← page
  let bytes ← okOr (checkedAdd budget.bytes text.length) byteLimit
  reject (bytes > maxDiscoveryAggregateBytes) byteLimit
  return ⟨items,bytes⟩

structure DiscoveryPager where
  pages : Nat
  cursor : Option String
  seenCursors : Finset String

namespace DiscoveryPager

def default : DiscoveryPager := ⟨0,none,∅⟩

def requestParams (pager : DiscoveryPager) : Except String (Option String) := do
  reject (pager.pages ≥ maxDiscoveryPagesPerKind) pageLimit
  return pager.cursor

/-- The second result tells whether another page is required. -/
def acceptPage (pager : DiscoveryPager) (itemCount : Nat) (nextCursor : Option String) :
    Except String (DiscoveryPager × Bool) := do
  let pages ← okOr (checkedAdd pager.pages 1) pageLimit
  match nextCursor with
  | none => return (⟨pages,none,pager.seenCursors⟩,false)
  | some nextCursor =>
    reject (itemCount = 0) "GM_MCP_UPSTREAM_DISCOVERY_EMPTY_PAGE"
    reject (nextCursor.utf8ByteSize > maxDiscoveryCursorBytes)
      "GM_MCP_UPSTREAM_DISCOVERY_CURSOR_TOO_LARGE"
    reject (nextCursor ∈ pager.seenCursors) "GM_MCP_UPSTREAM_DISCOVERY_CURSOR_REPEATED"
    return (⟨pages,some nextCursor,insert nextCursor pager.seenCursors⟩,true)

end DiscoveryPager

structure Implementation where
  name : String
  others : Entries Value

structure ServerCapabilities where
  tools : Bool
  resources : Bool
  prompts : Bool
  supportsTasks : Bool

structure PeerInfo where
  protocolVersion : String
  serverInfo : Option Implementation
  capabilities : ServerCapabilities

structure Page (α : Type) where
  items : List α
  nextCursor : Option String

structure PageRequest where
  kind : CapabilityKind
  cursor : Option String

variable (Item : CapabilityKind → Type)

/-- What the protocol library writes of its types, and the name, address or template of an item. -/
class ProtocolTypes where
  identity : ∀ kind, Item kind → String
  itemValue : ∀ kind, Item kind → Value
  serverValue : Implementation → Value
  capabilitiesValue : ServerCapabilities → Value
  infoText : PeerInfo → Except String (List UInt8)
  pageText : ∀ kind, Page (Item kind) → Except String (List UInt8)

/-- The answer to a request: a page of that kind of list, or an error of the service. -/
abbrev PageReply (request : PageRequest) : Type := Except String (Page (Item request.kind))

abbrev Discovery := Stateful DiscoveryBudget PageRequest (PageReply Item) String

abbrev Log := List (Exchange PageRequest (PageReply Item))

structure UpstreamSnapshot where
  protocolRevision : String
  serverName : String
  supportsTasks : Bool
  capabilityManifestDigest : Sha256Digest
  tools : List String
  resources : List String
  resourceTemplates : List String
  prompts : List String

structure CapturedDiscovery where
  snapshot : UpstreamSnapshot
  tools : List (Item .tool)
  resources : List (Item .resource)
  resourceTemplates : List (Item .resourceTemplate)
  prompts : List (Item .prompt)

variable {Item} [types : ProtocolTypes Item]

theorem DiscoveryPager.requestParams_ok {pager : DiscoveryPager} {cursor : Option String} :
    pager.requestParams = .ok cursor ↔
      pager.pages < maxDiscoveryPagesPerKind ∧ cursor = pager.cursor := by
  simp only [requestParams,Except.then_ok,reject_ok,Except.pure_ok,Except.ok.injEq]
  rw [ge_iff_le,not_le]
  exact and_congr_right fun _ => eq_comm

theorem DiscoveryPager.acceptPage_ok {pager next : DiscoveryPager} {itemCount : Nat}
    {nextCursor : Option String} {more : Bool}
    (accepted : pager.acceptPage itemCount nextCursor = .ok (next,more)) :
    next.pages = pager.pages + 1 ∧ next.cursor = nextCursor ∧ more = nextCursor.isSome ∧
      ∀ cursor, nextCursor = some cursor →
        cursor ∉ pager.seenCursors ∧ next.seenCursors = insert cursor pager.seenCursors := by
  simp only [acceptPage,okOr_bind_ok,checkedAdd_some] at accepted
  obtain ⟨pages,⟨rfl,-⟩,accepted⟩ := accepted
  cases nextCursor with
  | none =>
    cases accepted
    exact ⟨rfl,rfl,rfl,fun _ same => by cases same⟩
  | some cursor =>
    simp only [Except.then_ok,reject_ok] at accepted
    obtain ⟨-,-,fresh,same⟩ := accepted
    cases same
    refine ⟨rfl,rfl,rfl,fun other same => ?_⟩
    cases same
    exact ⟨fresh,rfl⟩

/-- Page after page until one has no cursor. Every accepted page counts, so the limit of the pages
ends the loop. -/
def listPages (kind : CapabilityKind) (context : String) (pager : DiscoveryPager)
    (items : List (Item kind)) (budget : DiscoveryBudget) :
    Prog PageRequest (PageReply Item) (Except String (List (Item kind)) × DiscoveryBudget) :=
  match _asked : pager.requestParams with
  | .error error => .pure (.error error,budget)
  | .ok cursor => .call ⟨kind,cursor⟩ fun
    | .error _ => .pure (.error context,budget)
    | .ok page =>
      match budget.chargePage (types.pageText kind page) page.items.length with
      | .error error => .pure (.error error,budget)
      | .ok budget =>
        match _accepted : pager.acceptPage page.items.length page.nextCursor with
        | .error error => .pure (.error error,budget)
        | .ok (_,false) => .pure (.ok (items ++ page.items),budget)
        | .ok (pager,true) => listPages kind context pager (items ++ page.items) budget
termination_by maxDiscoveryPagesPerKind - pager.pages
decreasing_by
  have room := (DiscoveryPager.requestParams_ok.mp _asked).1
  have counted := (DiscoveryPager.acceptPage_ok _accepted).1
  omega

def listBounded (kind : CapabilityKind) (context : String) : Discovery Item (List (Item kind)) :=
  ExceptT.mk fun budget => listPages kind context .default [] budget

def listToolsBounded : Discovery Item (List (Item .tool)) :=
  listBounded .tool "GM_MCP_UPSTREAM_TOOLS_LIST"

def listResourcesBounded : Discovery Item (List (Item .resource)) :=
  listBounded .resource "GM_MCP_UPSTREAM_RESOURCES_LIST"

def listResourceTemplatesBounded : Discovery Item (List (Item .resourceTemplate)) :=
  listBounded .resourceTemplate "GM_MCP_UPSTREAM_RESOURCE_TEMPLATES_LIST"

def listPromptsBounded : Discovery Item (List (Item .prompt)) :=
  listBounded .prompt "GM_MCP_UPSTREAM_PROMPTS_LIST"

/-- A list is only asked for if the source says that it has it. -/
def whenSupported (supported : Bool) (list : Discovery Item (List α)) : Discovery Item (List α) :=
  if supported then list else pure []

def captureDiscovery [FloatText] [Sha256] (peerInfo : Option PeerInfo) :
    Discovery Item (CapturedDiscovery Item) := do
  let info ← .ofExcept (okOr peerInfo "GM_MCP_UPSTREAM_MISSING_SERVER_IDENTITY")
  .update fun budget => budget.chargePage (types.infoText info) 0
  let tools ← whenSupported info.capabilities.tools listToolsBounded
  let resources ← whenSupported info.capabilities.resources listResourcesBounded
  let resourceTemplates ← whenSupported info.capabilities.resources listResourceTemplatesBounded
  let prompts ← whenSupported info.capabilities.prompts listPromptsBounded
  let server ← .ofExcept (okOr info.serverInfo "GM_MCP_UPSTREAM_MISSING_IMPLEMENTATION")
  let supportsTasks := info.protocolVersion = "2026-07-28" ∧ info.capabilities.supportsTasks
  let capabilityManifestDigest : Sha256Digest := .ofJson (.object [
    ("protocolRevision",.string info.protocolVersion),
    ("serverInfo",types.serverValue server),
    ("capabilities",types.capabilitiesValue info.capabilities),
    ("tools",.array (tools.map (types.itemValue .tool))),
    ("resources",.array (resources.map (types.itemValue .resource))),
    ("resourceTemplates",.array (resourceTemplates.map (types.itemValue .resourceTemplate))),
    ("prompts",.array (prompts.map (types.itemValue .prompt)))])
  let snapshot : UpstreamSnapshot := ⟨info.protocolVersion,server.name,supportsTasks,
    capabilityManifestDigest,tools.map (types.identity .tool),
    resources.map (types.identity .resource),
    resourceTemplates.map (types.identity .resourceTemplate),prompts.map (types.identity .prompt)⟩
  return ⟨snapshot,tools,resources,resourceTemplates,prompts⟩

/-- The items of one kind in an exchange. -/
def received (kind : CapabilityKind) : Exchange PageRequest (PageReply Item) → List (Item kind)
  | ⟨⟨asked,_⟩,.ok page⟩ => if same : asked = kind then same ▸ page.items else []
  | ⟨_,.error _⟩ => []

def itemCount : Exchange PageRequest (PageReply Item) → Nat
  | ⟨_,.ok page⟩ => page.items.length
  | ⟨_,.error _⟩ => 0

def byteCount : Exchange PageRequest (PageReply Item) → Nat
  | ⟨request,.ok page⟩ => ((types.pageText request.kind page).toOption.getD []).length
  | ⟨_,.error _⟩ => 0

def cursors (log : Log Item) : List String := log.filterMap (·.op.cursor)

def requests (kind : CapabilityKind) (log : Log Item) : Log Item := log.filter (·.op.kind = kind)

def DiscoveryBudget.Within (budget : DiscoveryBudget) : Prop :=
  budget.items ≤ maxDiscoveryItems ∧ budget.bytes ≤ maxDiscoveryAggregateBytes

theorem DiscoveryBudget.chargePage_ok {before after : DiscoveryBudget}
    {page : Except String (List UInt8)} {itemCount : Nat} :
    before.chargePage page itemCount = .ok after ↔ ∃ text, page = .ok text ∧
      after = ⟨before.items + itemCount,before.bytes + text.length⟩ ∧ after.Within := by
  constructor
  · intro charged
    simp only [chargePage,okOr_bind_ok,Except.then_ok,reject_ok,checkedAdd_some] at charged
    obtain ⟨_,⟨rfl,-⟩,fewItems,rest⟩ := charged
    obtain ⟨text,read,rest⟩ := Except.bind_ok.mp rest
    simp only [okOr_bind_ok,Except.then_ok,reject_ok,checkedAdd_some] at rest
    obtain ⟨_,⟨rfl,-⟩,fewBytes,same⟩ := rest
    cases same
    exact ⟨text,read,rfl,not_lt.mp fewItems,not_lt.mp fewBytes⟩
  · rintro ⟨text,read,rfl,fewItems,fewBytes⟩
    simp only [maxDiscoveryItems,maxDiscoveryAggregateBytes] at fewItems fewBytes
    simp only [chargePage,okOr_bind_ok,Except.then_ok,reject_ok,checkedAdd_some]
    refine ⟨_,⟨rfl,?_⟩,not_lt.mpr fewItems,Except.bind_ok.mpr ⟨text,read,?_⟩⟩
    · rw [maxU64]
      omega
    simp only [okOr_bind_ok,Except.then_ok,reject_ok,checkedAdd_some]
    refine ⟨_,⟨rfl,?_⟩,not_lt.mpr fewBytes,rfl⟩
    rw [maxU64]
    omega

/-- One turn of the loop: no request any more, a page that is not accepted, the last page, or a
page with another one after it. -/
theorem listPages_turn {kind : CapabilityKind} {context : String} {pager : DiscoveryPager}
    {items : List (Item kind)} {before after : DiscoveryBudget} {log : Log Item}
    {outcome : Except String (List (Item kind))}
    (answered : (listPages kind context pager items before).Answered log (outcome,after)) :
    (log = [] ∧ after = before ∧ ∃ error, outcome = .error error) ∨
    pager.pages < maxDiscoveryPagesPerKind ∧ ∃ reply rest,
      log = ⟨⟨kind,pager.cursor⟩,reply⟩ :: rest ∧
      ((rest = [] ∧ after = before ∧ ∃ error, outcome = .error error) ∨
      ∃ page charged, reply = .ok page ∧
        before.chargePage (types.pageText kind page) page.items.length = .ok charged ∧
        ((rest = [] ∧ after = charged ∧
            ∀ all, outcome = .ok all → all = items ++ page.items ∧ page.nextCursor = none) ∨
        ∃ next, pager.acceptPage page.items.length page.nextCursor = .ok (next,true) ∧
          (listPages kind context next (items ++ page.items) charged).Answered rest
            (outcome,after))) := by
  rw [listPages] at answered
  split at answered
  · obtain ⟨rfl,same⟩ := Prog.answered_pure.mp answered
    cases same
    exact .inl ⟨rfl,rfl,_,rfl⟩
  · next cursor asked =>
    obtain ⟨room,rfl⟩ := DiscoveryPager.requestParams_ok.mp asked
    obtain ⟨reply,rest,rfl,turned⟩ := Prog.answered_call.mp answered
    refine .inr ⟨room,reply,rest,rfl,?_⟩
    rcases reply with error | page
    · obtain ⟨rfl,same⟩ := Prog.answered_pure.mp turned
      cases same
      exact .inl ⟨rfl,rfl,_,rfl⟩
    simp only at turned
    split at turned
    · obtain ⟨rfl,same⟩ := Prog.answered_pure.mp turned
      cases same
      exact .inl ⟨rfl,rfl,_,rfl⟩
    · next charged paid =>
      refine .inr ⟨page,charged,rfl,paid,?_⟩
      split at turned
      · obtain ⟨rfl,same⟩ := Prog.answered_pure.mp turned
        cases same
        exact .inl ⟨rfl,rfl,nofun⟩
      · next last accepted =>
        obtain ⟨rfl,same⟩ := Prog.answered_pure.mp turned
        cases same
        have none := (DiscoveryPager.acceptPage_ok accepted).2.2.1
        exact .inl ⟨rfl,rfl,fun all same => ⟨(Except.ok.inj same).symm,by simpa using none⟩⟩
      · next next accepted => exact .inr ⟨next,accepted,turned⟩

/-- From one budget to another all exchanges are paid, the last one perhaps not. -/
def Spent (before after : DiscoveryBudget) (log : Log Item) (complete : Prop) : Prop :=
  ∃ accepted, accepted <+: log ∧ log.length ≤ accepted.length + 1 ∧ (complete → accepted = log) ∧
    after = ⟨before.items + (accepted.map itemCount).sum,
      before.bytes + (accepted.map byteCount).sum⟩ ∧ (before.Within → after.Within)

namespace Spent

variable {before middle after : DiscoveryBudget} {first rest : Log Item} {complete : Prop}

theorem nothing : Spent before before ([] : Log Item) complete :=
  ⟨[],List.prefix_rfl,Nat.zero_le _,fun _ => rfl,rfl,id⟩

theorem refused {exchange : Exchange PageRequest (PageReply Item)} (failed : ¬complete) :
    Spent before before [exchange] complete :=
  ⟨[],List.nil_prefix,le_refl _,fun complete => absurd complete failed,rfl,id⟩

theorem append (head : Spent before middle first True) (tail : Spent middle after rest complete) :
    Spent before after (first ++ rest) complete := by
  obtain ⟨_,-,-,whole,rfl,kept⟩ := head
  obtain ⟨accepted,front,near,last,rfl,bounded⟩ := tail
  rw [whole trivial] at *
  refine ⟨first ++ accepted,(List.prefix_append_right_inj first).mpr front,?_,
    fun complete => by rw [last complete],?_,fun within => bounded (kept within)⟩
  · rw [List.length_append,List.length_append]
    omega
  · simp only [List.map_append,List.sum_append,Nat.add_assoc]

theorem imp {done : Prop} (spent : Spent before after first complete) (less : done → complete) :
    Spent before after first done := by
  obtain ⟨accepted,front,near,last,rest⟩ := spent
  exact ⟨accepted,front,near,fun done => last (less done),rest⟩

theorem page {kind : CapabilityKind} {cursor : Option String} {page : Page (Item kind)}
    (charged : before.chargePage (types.pageText kind page) page.items.length = .ok after) :
    Spent before after [⟨⟨kind,cursor⟩,.ok page⟩] True := by
  obtain ⟨text,read,rfl,within⟩ := DiscoveryBudget.chargePage_ok.mp charged
  have bytes : byteCount (⟨⟨kind,cursor⟩,.ok page⟩ : Exchange PageRequest (PageReply Item)) =
      text.length := by
    simp only [byteCount,read]
    rfl
  refine ⟨_,List.prefix_rfl,by simp,fun _ => rfl,?_,fun _ => within⟩
  simp [itemCount,bytes]

end Spent

/-- What holds of a list that was asked for from some place on. -/
structure Listed (kind : CapabilityKind) (pager : DiscoveryPager) (items : List (Item kind))
    (before after : DiscoveryBudget) (log : Log Item) (outcome : Except String (List (Item kind))) :
    Prop where
  kinds : ∀ exchange ∈ log, exchange.op.kind = kind
  bounded : log.length ≤ maxDiscoveryPagesPerKind - pager.pages
  distinct : (cursors log).Nodup
  fresh : ∀ cursor ∈ cursors log, pager.cursor = some cursor ∨ cursor ∉ pager.seenCursors
  complete : ∀ all, outcome = .ok all → all = items ++ log.flatMap (received kind)
  spent : Spent before after log (∃ all, outcome = .ok all)

omit types in
theorem received_page {kind : CapabilityKind} (cursor : Option String) (page : Page (Item kind)) :
    received kind ⟨⟨kind,cursor⟩,.ok page⟩ = page.items := by
  rw [received,dif_pos rfl]

omit types in
theorem cursors_cons {kind : CapabilityKind} {cursor : Option String}
    {reply : PageReply Item ⟨kind,cursor⟩} {rest : Log Item} :
    cursors (⟨⟨kind,cursor⟩,reply⟩ :: rest) = cursor.toList ++ cursors rest := by
  cases cursor <;> rfl

/-- A cursor that was followed has been seen, and the next one has not. -/
theorem listPages_listed {kind : CapabilityKind} {context : String} {pager : DiscoveryPager}
    {items : List (Item kind)} {before after : DiscoveryBudget} {log : Log Item}
    {outcome : Except String (List (Item kind))}
    (followed : ∀ cursor, pager.cursor = some cursor → cursor ∈ pager.seenCursors)
    (answered : (listPages kind context pager items before).Answered log (outcome,after)) :
    Listed kind pager items before after log outcome := by
  induction room : maxDiscoveryPagesPerKind - pager.pages using Nat.strong_induction_on
    generalizing pager items before log with
  | _ size ih =>
    subst room
    rcases listPages_turn answered with ⟨rfl,rfl,error,rfl⟩ | ⟨inside,reply,rest,rfl,turn⟩
    · exact ⟨nofun,Nat.zero_le _,.nil,nofun,nofun,.nothing⟩
    have own : ∀ cursor ∈ pager.cursor.toList, pager.cursor = some cursor := fun cursor member =>
      Option.mem_toList.mp member
    rcases turn with ⟨rfl,rfl,error,rfl⟩ | ⟨page,charged,rfl,paid,⟨rfl,rfl,last⟩ | ⟨next,accepted,more⟩⟩
    · refine ⟨by simp,by simp; omega,?_,?_,nofun,.refused nofun⟩
      · rw [cursors_cons]
        cases pager.cursor <;> simp [cursors]
      · rw [cursors_cons]
        simpa [cursors] using fun cursor same => .inl same
    · refine ⟨by simp,by simp; omega,?_,?_,?_,(Spent.page paid).imp fun _ => trivial⟩
      · rw [cursors_cons]
        cases pager.cursor <;> simp [cursors]
      · rw [cursors_cons]
        simpa [cursors] using fun cursor same => .inl same
      · intro all same
        rw [(last all same).1,List.flatMap_cons,received_page,List.flatMap_nil,List.append_nil]
    · obtain ⟨counted,cursorOf,some_,seen⟩ := DiscoveryPager.acceptPage_ok accepted
      obtain ⟨cursor,given⟩ := Option.isSome_iff_exists.mp some_.symm
      obtain ⟨new,inserted⟩ := seen cursor given
      rw [given] at cursorOf
      have later := ih _ (by omega) (fun other same => by
        rw [cursorOf] at same
        cases same
        rw [inserted]
        exact Finset.mem_insert_self _ _) more rfl
      have unseen : ∀ other ∈ cursors rest, other ∉ pager.seenCursors := by
        intro other member
        rcases later.fresh other member with same | absent
        · rw [cursorOf] at same
          cases same
          exact new
        · rw [inserted,Finset.mem_insert,not_or] at absent
          exact absent.2
      refine ⟨?_,?_,?_,?_,?_,(Spent.page paid).append later.spent⟩
      · exact List.forall_mem_cons.mpr ⟨rfl,later.kinds⟩
      · have := later.bounded
        rw [List.length_cons]
        omega
      · rw [cursors_cons]
        refine List.nodup_append.mpr ⟨by cases pager.cursor <;> simp,later.distinct,?_⟩
        rintro other member _ again rfl
        exact unseen other again (followed other (own other member))
      · rw [cursors_cons]
        intro other member
        rcases List.mem_append.mp member with first | again
        · exact .inl (own other first)
        · exact .inr (unseen other again)
      · intro all same
        rw [later.complete all same,List.flatMap_cons,received_page,List.append_assoc]

/-- The cursor that an answer gives for the next request. -/
def nextCursor : Exchange PageRequest (PageReply Item) → Option String
  | ⟨_,.ok page⟩ => page.nextCursor
  | ⟨_,.error _⟩ => none

/-- The requests follow the pages: the first has this cursor, each of the others the one of the page
before it, and where the list is complete the last answer is a page without a cursor. -/
structure Followed (kind : CapabilityKind) (cursor : Option String) (log : Log Item)
    (outcome : Except String (List (Item kind))) : Prop where
  first : ∀ exchange ∈ log.head?, exchange.op.cursor = cursor
  chained : log.IsChain fun before after =>
    (nextCursor before).isSome ∧ after.op.cursor = nextCursor before
  ended : ∀ all, outcome = .ok all →
    ∃ last ∈ log.getLast?, last.reply.isOk ∧ nextCursor last = none

omit types in
theorem Followed.stopped {kind : CapabilityKind} {cursor : Option String}
    {reply : PageReply Item ⟨kind,cursor⟩} {error : String} :
    Followed kind cursor [⟨⟨kind,cursor⟩,reply⟩] (.error error) :=
  ⟨by simp,.singleton _,nofun⟩

omit types in
theorem Followed.cons {kind : CapabilityKind} {cursor : Option String} {page : Page (Item kind)}
    {given : String} {log : Log Item} {outcome : Except String (List (Item kind))}
    (next : page.nextCursor = some given) (followed : Followed kind (some given) log outcome) :
    Followed kind cursor (⟨⟨kind,cursor⟩,.ok page⟩ :: log) outcome := by
  refine ⟨by simp,?_,fun all same => ?_⟩
  · rw [List.isChain_cons]
    refine ⟨fun exchange first => ?_,followed.chained⟩
    rw [followed.first exchange first,nextCursor,next]
    exact ⟨rfl,rfl⟩
  · obtain ⟨last,member,answered⟩ := followed.ended all same
    exact ⟨last,by rw [List.getLast?_cons,member]; rfl,answered⟩

theorem listPages_followed {kind : CapabilityKind} {context : String} {pager : DiscoveryPager}
    {items : List (Item kind)} {before after : DiscoveryBudget} {log : Log Item}
    {outcome : Except String (List (Item kind))}
    (answered : (listPages kind context pager items before).Answered log (outcome,after)) :
    Followed kind pager.cursor log outcome := by
  induction room : maxDiscoveryPagesPerKind - pager.pages using Nat.strong_induction_on
    generalizing pager items before log with
  | _ size ih =>
    subst room
    rcases listPages_turn answered with ⟨rfl,rfl,error,rfl⟩ | ⟨inside,reply,rest,rfl,turn⟩
    · exact ⟨nofun,.nil,nofun⟩
    rcases turn with ⟨rfl,rfl,error,rfl⟩ | ⟨page,charged,rfl,paid,⟨rfl,rfl,last⟩ | ⟨next,accepted,more⟩⟩
    · exact .stopped
    · exact ⟨by simp,.singleton _,fun all same => ⟨_,rfl,rfl,(last all same).2⟩⟩
    · obtain ⟨counted,cursorOf,some_,-⟩ := DiscoveryPager.acceptPage_ok accepted
      obtain ⟨cursor,given⟩ := Option.isSome_iff_exists.mp some_.symm
      have later := ih _ (by omega) more rfl
      rw [cursorOf,given] at later
      exact later.cons given

theorem listBounded_listed {kind : CapabilityKind} {context : String}
    {before after : DiscoveryBudget} {log : Log Item} {outcome : Except String (List (Item kind))}
    (answered : (listBounded kind context).Answered before log outcome after) :
    Listed kind .default [] before after log outcome :=
  listPages_listed nofun answered

theorem whenSupported_listed {kind : CapabilityKind} {context : String} {supported : Bool}
    {before after : DiscoveryBudget} {log : Log Item} {outcome : Except String (List (Item kind))}
    (answered : (whenSupported supported (listBounded kind context)).Answered before log outcome
      after) : Listed kind .default [] before after log outcome := by
  cases supported with
  | true => exact listBounded_listed answered
  | false =>
    obtain ⟨rfl,rfl,rfl⟩ := Stateful.answered_pure.mp answered
    exact ⟨nofun,Nat.zero_le _,.nil,nofun,fun all same => (Except.ok.inj same).symm,.nothing⟩

/-- No more than the limit of requests for one kind, and none with a cursor that was followed. -/
def Polite (kind : CapabilityKind) (log : Log Item) : Prop :=
  (requests kind log).length ≤ maxDiscoveryPagesPerKind ∧ (cursors (requests kind log)).Nodup

/-- The lists of some kinds have been asked for, on one budget. -/
structure Asked (kinds : List CapabilityKind) (before after : DiscoveryBudget) (log : Log Item)
    (complete : Prop) : Prop where
  kinds : ∀ exchange ∈ log, exchange.op.kind ∈ kinds
  polite : ∀ kind, Polite kind log
  spent : Spent before after log complete

omit types in
theorem requests_none {kind : CapabilityKind} {log : Log Item}
    (others : ∀ exchange ∈ log, exchange.op.kind ≠ kind) : requests kind log = [] :=
  List.filter_eq_nil_iff.mpr fun exchange member same => others exchange member (of_decide_eq_true same)

omit types in
theorem received_none {kind : CapabilityKind} {log : Log Item}
    (others : ∀ exchange ∈ log, exchange.op.kind ≠ kind) : log.flatMap (received kind) = [] := by
  refine List.flatMap_eq_nil_iff.mpr fun exchange member => ?_
  have other := others exchange member
  obtain ⟨⟨asked,cursor⟩,error | page⟩ := exchange
  · rfl
  · exact dif_neg other

namespace Asked

variable {kinds : List CapabilityKind} {before middle after : DiscoveryBudget} {log rest : Log Item}
  {complete : Prop}

theorem nothing : Asked [] before before ([] : Log Item) complete :=
  ⟨nofun,fun _ => ⟨Nat.zero_le _,.nil⟩,.nothing⟩

theorem imp {done : Prop} (asked : Asked kinds before after log complete) (less : done → complete) :
    Asked kinds before after log done :=
  ⟨asked.kinds,asked.polite,asked.spent.imp less⟩

theorem others (asked : Asked kinds before after log complete) {kind : CapabilityKind}
    (new : kind ∉ kinds) : ∀ exchange ∈ log, exchange.op.kind ≠ kind := by
  rintro exchange member rfl
  exact new (asked.kinds exchange member)

/-- One list more. -/
theorem append {kind : CapabilityKind} {outcome : Except String (List (Item kind))}
    (asked : Asked kinds before middle log True) (new : kind ∉ kinds)
    (listed : Listed kind .default [] middle after rest outcome) :
    Asked (kind :: kinds) before after (log ++ rest) (∃ all, outcome = .ok all) := by
  refine ⟨?_,fun other => ?_,asked.spent.append listed.spent⟩
  · intro exchange member
    rcases List.mem_append.mp member with first | later
    · exact List.mem_cons_of_mem _ (asked.kinds exchange first)
    · exact listed.kinds exchange later ▸ List.mem_cons_self
  · have both : requests other (log ++ rest) = requests other log ++ requests other rest :=
      List.filter_append _ _
    by_cases same : other = kind
    · subst same
      have all : requests other rest = rest := List.filter_eq_self.mpr fun exchange member =>
        decide_eq_true (listed.kinds exchange member)
      rw [Polite,both,requests_none (asked.others new),List.nil_append,all]
      exact ⟨listed.bounded,listed.distinct⟩
    · have none_ : requests other rest = [] := requests_none fun exchange member again =>
        same (again.symm.trans (listed.kinds exchange member))
      rw [Polite,both,none_,List.append_nil]
      exact asked.polite other

theorem next {kind : CapabilityKind} {items : List (Item kind)}
    (asked : Asked kinds before middle log True) (new : kind ∉ kinds)
    (listed : Listed kind .default [] middle after rest (.ok items)) :
    Asked (kind :: kinds) before after (log ++ rest) True :=
  (asked.append new listed).imp fun _ => ⟨items,rfl⟩

end Asked

/-- What the lists of one kind have brought. -/
def CapturedDiscovery.items (captured : CapturedDiscovery Item) :
    ∀ kind, List (Item kind)
  | .tool => captured.tools
  | .resource => captured.resources
  | .resourceTemplate => captured.resourceTemplates
  | .prompt => captured.prompts
  | .model => []

/-- The bytes of what the source says of itself. -/
def infoBytes (Item : CapabilityKind → Type) [types : ProtocolTypes Item] (info : PeerInfo) : Nat :=
  ((types.infoText info).toOption.getD []).length

theorem Listed.received_other {kind other : CapabilityKind} {pager : DiscoveryPager}
    {items : List (Item kind)} {before after : DiscoveryBudget} {log : Log Item}
    {outcome : Except String (List (Item kind))}
    (listed : Listed kind pager items before after log outcome) (apart : other ≠ kind) :
    log.flatMap (received other) = [] :=
  received_none fun exchange member same => apart (same.symm.trans (listed.kinds exchange member))

/-- What a discovery has asked for, paid and brought. -/
structure Discovered (peerInfo : Option PeerInfo) (log : Log Item)
    (outcome : Except String (CapturedDiscovery Item)) (after : DiscoveryBudget) : Prop where
  polite : ∀ kind, Polite kind log
  within : after.Within
  paid : (log = [] ∧ ∃ error, outcome = .error error) ∨ ∃ info, peerInfo = some info ∧
    Spent ⟨0,infoBytes Item info⟩ after log (∃ captured, outcome = .ok captured)
  complete : ∀ captured, outcome = .ok captured →
    ∀ kind, captured.items kind = log.flatMap (received kind)

/-- A discovery that fails after some lists. -/
theorem Asked.stopped {peerInfo : Option PeerInfo} {info : PeerInfo} {kinds : List CapabilityKind}
    {log : Log Item} {after : DiscoveryBudget} {complete : Prop} {error : String}
    (present : peerInfo = some info) (within : DiscoveryBudget.Within ⟨0,infoBytes Item info⟩)
    (asked : Asked kinds ⟨0,infoBytes Item info⟩ after log complete) :
    Discovered peerInfo log (.error error) after := by
  obtain ⟨_,_,_,_,_,kept⟩ := asked.spent
  exact ⟨asked.polite,kept within,.inr ⟨info,present,asked.spent.imp nofun⟩,nofun⟩

theorem captureDiscovery_discovered [FloatText] [Sha256] {peerInfo : Option PeerInfo}
    {log : Log Item} {outcome : Except String (CapturedDiscovery Item)} {after : DiscoveryBudget}
    (answered : (captureDiscovery peerInfo).Answered ⟨0,0⟩ log outcome after) :
    Discovered peerInfo log outcome after := by
  have empty : DiscoveryBudget.Within ⟨0,0⟩ := ⟨Nat.zero_le _,Nat.zero_le _⟩
  rcases Stateful.answered_bind answered with
    ⟨error,rfl,failed⟩ | ⟨info,_,_,rest,rfl,known,answered⟩
  · obtain ⟨rfl,-,rfl⟩ := Stateful.answered_ofExcept.mp failed
    exact ⟨fun _ => ⟨Nat.zero_le _,.nil⟩,empty,.inl ⟨rfl,error,rfl⟩,nofun⟩
  obtain ⟨rfl,present,rfl⟩ := Stateful.answered_ofExcept.mp known
  have present := (okOr_ok _ _ _).mp present.symm
  rcases Stateful.answered_bind answered with
    ⟨error,rfl,failed⟩ | ⟨_,_,_,rest,rfl,charged,answered⟩
  · obtain ⟨rfl,⟨_,-,impossible,-⟩ | ⟨_,-,-,rfl⟩⟩ := Stateful.answered_update.mp failed
    · cases impossible
    · exact ⟨fun _ => ⟨Nat.zero_le _,.nil⟩,empty,.inl ⟨rfl,error,rfl⟩,nofun⟩
  obtain ⟨rfl,⟨budget,charged,-,rfl⟩ | ⟨_,-,impossible,-⟩⟩ := Stateful.answered_update.mp charged
  swap
  · cases impossible
  obtain ⟨text,read,rfl,within⟩ := DiscoveryBudget.chargePage_ok.mp charged
  have first : infoBytes Item info = text.length := by
    rw [infoBytes,read]
    rfl
  simp only [Nat.zero_add,← first] at within answered
  -- every list that fails ends the discovery, every other one is added to the lists before
  rcases Stateful.answered_bind answered with
    ⟨error,rfl,failed⟩ | ⟨tools,afterTools,toolLog,rest,rfl,listed,answered⟩
  · exact (Asked.nothing.append (by decide) (whenSupported_listed failed)).stopped present within
  have toolsListed := whenSupported_listed listed
  have asked := Asked.nothing.next (by decide) toolsListed
  rcases Stateful.answered_bind answered with
    ⟨error,rfl,failed⟩ | ⟨resources,afterResources,resourceLog,rest,rfl,listed,answered⟩
  · exact (asked.append (by decide) (whenSupported_listed failed)).stopped present within
  have resourcesListed := whenSupported_listed listed
  have asked := asked.next (by decide) resourcesListed
  rcases Stateful.answered_bind answered with
    ⟨error,rfl,failed⟩ | ⟨templates,afterTemplates,templateLog,rest,rfl,listed,answered⟩
  · simpa only [List.nil_append,List.append_assoc] using
      (asked.append (by decide) (whenSupported_listed failed)).stopped present within
  have templatesListed := whenSupported_listed listed
  have asked := asked.next (by decide) templatesListed
  rcases Stateful.answered_bind answered with
    ⟨error,rfl,failed⟩ | ⟨prompts,afterPrompts,promptLog,rest,rfl,listed,answered⟩
  · simpa only [List.nil_append,List.append_assoc] using
      (asked.append (by decide) (whenSupported_listed failed)).stopped present within
  have promptsListed := whenSupported_listed listed
  have asked := asked.next (by decide) promptsListed
  rcases Stateful.answered_bind answered with
    ⟨error,rfl,failed⟩ | ⟨server,_,_,rest,rfl,known,returned⟩
  · obtain ⟨rfl,-,rfl⟩ := Stateful.answered_ofExcept.mp failed
    simpa only [List.nil_append,List.append_nil,List.append_assoc] using asked.stopped present within
  obtain ⟨rfl,-,rfl⟩ := Stateful.answered_ofExcept.mp known
  obtain ⟨rfl,rfl,rfl⟩ := Stateful.answered_pure.mp returned
  obtain ⟨_,_,_,_,_,kept⟩ := asked.spent
  refine ⟨?_,kept within,.inr ⟨info,present,?_⟩,?_⟩
  · simpa only [List.nil_append,List.append_nil,List.append_assoc] using asked.polite
  · simpa only [List.nil_append,List.append_nil,List.append_assoc] using asked.spent.imp fun _ => trivial
  · rintro captured same kind
    cases same
    simp only [List.nil_append,List.append_nil,List.flatMap_append]
    cases kind <;> simp [CapturedDiscovery.items,toolsListed.received_other,
      resourcesListed.received_other,templatesListed.received_other,promptsListed.received_other,
      toolsListed.complete _ rfl,resourcesListed.complete _ rfl,templatesListed.complete _ rfl,
      promptsListed.complete _ rfl]

/-- Whatever a source answers, each list ends after the limit of its requests with what was sent or
with an error, its requests follow the pages to one without a cursor, and all lists together stay
within the budget. -/
theorem discovery_bounded [FloatText] [Sha256]
    (peer : Log Item → ∀ request : PageRequest, PageReply Item request) :
    (∀ (kind : CapabilityKind) (context : String) (before : DiscoveryBudget),
      let run := (listBounded kind context : Discovery Item _).drive peer before
      Listed kind .default [] before run.2.2 run.1 run.2.1 ∧ Followed kind none run.1 run.2.1) ∧
    ∀ peerInfo : Option PeerInfo,
      let run := (captureDiscovery peerInfo : Discovery Item _).drive peer ⟨0,0⟩
      Discovered peerInfo run.1 run.2.1 run.2.2 := by
  constructor
  · intro kind context before run
    have answered := Stateful.drive_answered (rfl : run = (run.1,run.2.1,run.2.2))
    exact ⟨listBounded_listed answered,listPages_followed answered⟩
  · intro peerInfo run
    exact captureDiscovery_discovered (Stateful.drive_answered rfl)

section Turns

variable {peer : Log Item → ∀ request : PageRequest, PageReply Item request} {kind : CapabilityKind}
  {context : String} {pager next : DiscoveryPager} {items : List (Item kind)} {page : Page (Item kind)}
  {before charged : DiscoveryBudget} {cursor : Option String} {log : Log Item}

/-- A page with a cursor is followed. -/
theorem listPages_next (asked : pager.requestParams = .ok cursor)
    (answered : peer log ⟨kind,cursor⟩ = .ok page)
    (paid : before.chargePage (types.pageText kind page) page.items.length = .ok charged)
    (accepted : pager.acceptPage page.items.length page.nextCursor = .ok (next,true)) :
    (listPages kind context pager items before).drive peer log =
      (listPages kind context next (items ++ page.items) charged).drive peer
        (log ++ [⟨⟨kind,cursor⟩,.ok page⟩]) := by
  rw [listPages]
  split
  · next refused => cases asked.symm.trans refused
  next known =>
  cases asked.symm.trans known
  rw [Prog.drive,answered]
  dsimp only
  split
  · next refused => cases paid.symm.trans refused
  next spent =>
  cases paid.symm.trans spent
  split
  · next refused => cases accepted.symm.trans refused
  · next last => cases accepted.symm.trans last
  next more =>
  cases accepted.symm.trans more
  rfl

/-- A page without one is the last. -/
theorem listPages_last (asked : pager.requestParams = .ok cursor)
    (answered : peer log ⟨kind,cursor⟩ = .ok page)
    (paid : before.chargePage (types.pageText kind page) page.items.length = .ok charged)
    (accepted : pager.acceptPage page.items.length page.nextCursor = .ok (next,false)) :
    (listPages kind context pager items before).drive peer log =
      (log ++ [⟨⟨kind,cursor⟩,.ok page⟩],.ok (items ++ page.items),charged) := by
  rw [listPages]
  split
  · next refused => cases asked.symm.trans refused
  next known =>
  cases asked.symm.trans known
  rw [Prog.drive,answered]
  dsimp only
  split
  · next refused => cases paid.symm.trans refused
  next spent =>
  cases paid.symm.trans spent
  split
  · next refused => cases accepted.symm.trans refused
  · rfl
  · next more => cases accepted.symm.trans more

end Turns

section Example
open Reference

/-- Items that are their names; a page is written as the names one after the other. -/
scoped instance exampleTypes : ProtocolTypes fun _ => String where
  identity _ name := name
  itemValue _ name := .string name
  serverValue server := .string server.name
  capabilitiesValue _ := .null
  infoText _ := .ok []
  pageText _ page := .ok (page.items.flatMap fun name => name.toList.map fun c => .ofNat c.toNat)

/-- Two pages: the second for the cursor of the first. -/
def examplePeer (_log : Log fun _ => String) (request : PageRequest) :
    PageReply (fun _ => String) request :=
  if request.cursor = none then .ok ⟨["search","fetch"],some "2"⟩ else .ok ⟨["write"],none⟩

def exampleLog : Log fun _ => String := [
  ⟨⟨.tool,none⟩,.ok ⟨["search","fetch"],some "2"⟩⟩,
  ⟨⟨.tool,some "2"⟩,.ok ⟨["write"],none⟩⟩]

theorem example_driven : (listToolsBounded : Discovery (fun _ => String) _).drive examplePeer ⟨0,0⟩ =
    (exampleLog,.ok ["search","fetch","write"],⟨3,16⟩) :=
  (listPages_next rfl rfl rfl rfl).trans (listPages_last rfl rfl rfl rfl)

theorem discovery_bounded_example :
    (listToolsBounded : Discovery (fun _ => String) _).drive examplePeer ⟨0,0⟩ =
        (exampleLog,.ok ["search","fetch","write"],⟨3,16⟩) ∧
      Listed .tool .default [] ⟨0,0⟩ ⟨3,16⟩ exampleLog (.ok ["search","fetch","write"]) ∧
      Followed .tool none exampleLog (.ok ["search","fetch","write"]) := by
  have bounded : let run := (listToolsBounded : Discovery (fun _ => String) _).drive examplePeer ⟨0,0⟩
      Listed .tool .default [] ⟨0,0⟩ run.2.2 run.1 run.2.1 ∧ Followed .tool none run.1 run.2.1 :=
    (discovery_bounded examplePeer).1 .tool "GM_MCP_UPSTREAM_TOOLS_LIST" ⟨0,0⟩
  rw [example_driven] at bounded
  exact ⟨example_driven,bounded⟩

end Example
end GaugeMesh.Listing
