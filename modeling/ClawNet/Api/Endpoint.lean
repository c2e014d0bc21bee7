import ClawNet.Http.Client

namespace ClawNet.Api

open ClawNet.Text ClawNet.Http

/-- A piece of a path template: a literal segment, or a slot filled with `quote(arg, safe='')`. -/
inductive Seg where
  | lit (s : String)
  | slot
  deriving DecidableEq, Repr

instance : Coe String Seg := ⟨Seg.lit⟩

/-- A literal is made of characters `quote` leaves alone, none of them a dot; every literal of
the SDK's templates is a lowercase word. -/
def Seg.wellFormed : Seg → Bool
  | .lit s => s.data.all fun c => alwaysSafe c.toNat && c != '.'
  | .slot => true

/-- How a keyword option enters the query: always, under `if x:`, or under `if x is not None:`. -/
inductive Rule where
  | always
  | ifTruthy
  | ifNotNone
  deriving DecidableEq, Repr

/-- What a method sends besides its path. -/
inductive Mode where
  | plain
  | options (rules : List (String × Rule))
  | queryKwargs
  | bodyKwargs
  | droppedKwargs
  deriving DecidableEq, Repr

structure Endpoint where
  verb : Verb
  template : List Seg
  mode : Mode
  wf : template ≠ [] ∧ template.all Seg.wellFormed = true := by decide

/-- The arguments of one call: identifiers in slot order, the named keyword options in the
method's order, and the open mapping (`**params` of a GET or DELETE, `**kwargs` of a POST). -/
structure Args where
  ids : List String := []
  opts : List QueryValue := []
  params : Params := []
  kwargs : Body := []

def arity : List Seg → Nat
  | [] => 0
  | .lit _ :: t => arity t
  | .slot :: t => arity t + 1

/-- The segments an f-string template writes; Python refuses a call with missing identifiers,
and the theorems take the arity as a hypothesis. -/
def render : List Seg → List String → List String
  | [], _ => []
  | .lit s :: t, ids => s :: render t ids
  | .slot :: t, [] => "" :: render t []
  | .slot :: t, x :: ids => quote x "" :: render t ids

def Endpoint.path (e : Endpoint) (ids : List String) : String :=
  "/" ++ pyJoin "/" (render e.template ids)

/-- The dict a method fills from its keyword options, in insertion order. -/
def optionParams : List (String × Rule) → List QueryValue → Params
  | (k, r) :: rules, v :: vs =>
    match r with
    | .always => (k, v) :: optionParams rules vs
    | .ifTruthy => if v.truthy then (k, v) :: optionParams rules vs else optionParams rules vs
    | .ifNotNone => if v.isNone then optionParams rules vs else (k, v) :: optionParams rules vs
  | _, _ => []

/-- Whether a rule lets an option's value into the dict. -/
def Rule.admits : Rule → QueryValue → Bool
  | .always, _ => true
  | .ifTruthy, v => v.truthy
  | .ifNotNone, v => !v.isNone

theorem optionParams_eq (rules : List (String × Rule)) (vs : List QueryValue) :
    optionParams rules vs =
      (rules.zip vs).filterMap fun p => if p.1.2.admits p.2 then some (p.1.1, p.2) else none := by
  induction rules generalizing vs with
  | nil => rfl
  | cons kr rules ih =>
    obtain ⟨k, r⟩ := kr
    cases vs with
    | nil => rfl
    | cons v vs =>
      cases r <;> by_cases hv : v.truthy <;> by_cases hn : v.isNone <;>
        simp [optionParams, Rule.admits, hv, hn, ih]

/-- `params or None`. -/
def orNone (ps : Params) : Option Params := if ps.isEmpty then none else some ps

/-- The one call a wrapper method makes. -/
def Endpoint.call (e : Endpoint) (a : Args) : Call :=
  match e.mode with
  | .plain => ⟨e.verb, e.path a.ids, none, none⟩
  | .options rules => ⟨e.verb, e.path a.ids, orNone (optionParams rules a.opts), none⟩
  | .queryKwargs => ⟨e.verb, e.path a.ids, orNone a.params, none⟩
  | .bodyKwargs => ⟨e.verb, e.path a.ids, none, some a.kwargs⟩
  | .droppedKwargs => ⟨e.verb, e.path a.ids, none, none⟩

@[simp] theorem call_verb (e : Endpoint) (a : Args) : (e.call a).verb = e.verb := by
  unfold Endpoint.call; split <;> rfl

@[simp] theorem call_path (e : Endpoint) (a : Args) : (e.call a).path = e.path a.ids := by
  unfold Endpoint.call; split <;> rfl

def IdentityApi.get : Endpoint := ⟨.get, ["api", "identity", .slot], .plain, by decide⟩
def IdentityApi.resolve : Endpoint :=
  ⟨.get, ["api", "identity", .slot], .options [("source", .ifTruthy)], by decide⟩
/-- `params = {"did": did}` is never empty, so passing it as it is equals `params or None`. -/
def IdentityApi.listCapabilities : Endpoint :=
  ⟨.get, ["api", "identity", "capabilities"],
    .options [("did", .always), ("limit", .ifNotNone), ("offset", .ifNotNone)], by decide⟩
def IdentityApi.registerCapability : Endpoint :=
  ⟨.post, ["api", "identity", "capabilities"], .bodyKwargs, by decide⟩

def ContractsApi.list : Endpoint := ⟨.get, ["api", "contracts"], .queryKwargs, by decide⟩
def ContractsApi.get : Endpoint := ⟨.get, ["api", "contracts", .slot], .plain, by decide⟩
def ContractsApi.create : Endpoint := ⟨.post, ["api", "contracts"], .bodyKwargs, by decide⟩
def ContractsApi.sign : Endpoint :=
  ⟨.post, ["api", "contracts", .slot, "sign"], .bodyKwargs, by decide⟩
def ContractsApi.fund : Endpoint :=
  ⟨.post, ["api", "contracts", .slot, "fund"], .bodyKwargs, by decide⟩
def ContractsApi.complete : Endpoint :=
  ⟨.post, ["api", "contracts", .slot, "complete"], .bodyKwargs, by decide⟩
def ContractsApi.submitMilestone : Endpoint :=
  ⟨.post, ["api", "contracts", .slot, "milestones", .slot, "submit"], .bodyKwargs, by decide⟩
def ContractsApi.approveMilestone : Endpoint :=
  ⟨.post, ["api", "contracts", .slot, "milestones", .slot, "approve"], .bodyKwargs, by decide⟩
def ContractsApi.rejectMilestone : Endpoint :=
  ⟨.post, ["api", "contracts", .slot, "milestones", .slot, "reject"], .bodyKwargs, by decide⟩
def ContractsApi.openDispute : Endpoint :=
  ⟨.post, ["api", "contracts", .slot, "dispute"], .bodyKwargs, by decide⟩
def ContractsApi.resolveDispute : Endpoint :=
  ⟨.post, ["api", "contracts", .slot, "dispute", "resolve"], .bodyKwargs, by decide⟩
def ContractsApi.settlement : Endpoint :=
  ⟨.post, ["api", "contracts", .slot, "settlement"], .bodyKwargs, by decide⟩

def DaoApi.listProposals : Endpoint :=
  ⟨.get, ["api", "dao", "proposals"], .options [("status", .ifTruthy)], by decide⟩
def DaoApi.getProposal : Endpoint := ⟨.get, ["api", "dao", "proposals", .slot], .plain, by decide⟩
def DaoApi.createProposal : Endpoint :=
  ⟨.post, ["api", "dao", "proposals"], .bodyKwargs, by decide⟩
def DaoApi.advanceProposal : Endpoint :=
  ⟨.post, ["api", "dao", "proposals", .slot, "advance"], .bodyKwargs, by decide⟩
def DaoApi.getVotes : Endpoint :=
  ⟨.get, ["api", "dao", "proposals", .slot, "votes"], .plain, by decide⟩
def DaoApi.vote : Endpoint := ⟨.post, ["api", "dao", "vote"], .bodyKwargs, by decide⟩
def DaoApi.delegate : Endpoint := ⟨.post, ["api", "dao", "delegate"], .bodyKwargs, by decide⟩
def DaoApi.revokeDelegation : Endpoint :=
  ⟨.post, ["api", "dao", "delegate", "revoke"], .bodyKwargs, by decide⟩
def DaoApi.getDelegations : Endpoint :=
  ⟨.get, ["api", "dao", "delegations", .slot], .plain, by decide⟩
def DaoApi.getTreasury : Endpoint := ⟨.get, ["api", "dao", "treasury"], .plain, by decide⟩
def DaoApi.deposit : Endpoint :=
  ⟨.post, ["api", "dao", "treasury", "deposit"], .bodyKwargs, by decide⟩
def DaoApi.listTimelock : Endpoint := ⟨.get, ["api", "dao", "timelock"], .plain, by decide⟩
def DaoApi.executeTimelock : Endpoint :=
  ⟨.post, ["api", "dao", "timelock", .slot, "execute"], .bodyKwargs, by decide⟩
def DaoApi.cancelTimelock : Endpoint :=
  ⟨.post, ["api", "dao", "timelock", .slot, "cancel"], .bodyKwargs, by decide⟩
def DaoApi.getParams : Endpoint := ⟨.get, ["api", "dao", "params"], .plain, by decide⟩

def ReputationApi.getProfile : Endpoint := ⟨.get, ["api", "reputation", .slot], .plain, by decide⟩
def ReputationApi.getReviews : Endpoint :=
  ⟨.get, ["api", "reputation", .slot, "reviews"],
    .options [("source", .ifTruthy), ("limit", .ifNotNone), ("offset", .ifNotNone)], by decide⟩
def ReputationApi.record : Endpoint :=
  ⟨.post, ["api", "reputation", "record"], .bodyKwargs, by decide⟩

def NodeApi.getStatus : Endpoint := ⟨.get, ["api", "node", "status"], .plain, by decide⟩
def NodeApi.getPeers : Endpoint :=
  ⟨.get, ["api", "node", "peers"], .options [("limit", .ifNotNone), ("offset", .ifNotNone)],
    by decide⟩
def NodeApi.getConfig : Endpoint := ⟨.get, ["api", "node", "config"], .plain, by decide⟩

def WalletApi.getBalance : Endpoint :=
  ⟨.get, ["api", "wallet", "balance"], .options [("did", .ifTruthy), ("address", .ifTruthy)],
    by decide⟩
def WalletApi.transfer : Endpoint := ⟨.post, ["api", "wallet", "transfer"], .bodyKwargs, by decide⟩
def WalletApi.getHistory : Endpoint :=
  ⟨.get, ["api", "wallet", "history"],
    .options [("did", .ifTruthy), ("limit", .ifNotNone), ("offset", .ifNotNone),
      ("type", .ifTruthy)], by decide⟩
def WalletApi.createEscrow : Endpoint :=
  ⟨.post, ["api", "wallet", "escrow"], .bodyKwargs, by decide⟩
def WalletApi.getEscrow : Endpoint := ⟨.get, ["api", "wallet", "escrow", .slot], .plain, by decide⟩
def WalletApi.releaseEscrow : Endpoint :=
  ⟨.post, ["api", "wallet", "escrow", .slot, "release"], .bodyKwargs, by decide⟩
def WalletApi.fundEscrow : Endpoint :=
  ⟨.post, ["api", "wallet", "escrow", .slot, "fund"], .bodyKwargs, by decide⟩
def WalletApi.refundEscrow : Endpoint :=
  ⟨.post, ["api", "wallet", "escrow", .slot, "refund"], .bodyKwargs, by decide⟩
def WalletApi.expireEscrow : Endpoint :=
  ⟨.post, ["api", "wallet", "escrow", .slot, "expire"], .bodyKwargs, by decide⟩

def InfoMarketApi.list : Endpoint := ⟨.get, ["api", "markets", "info"], .queryKwargs, by decide⟩
def InfoMarketApi.get : Endpoint := ⟨.get, ["api", "markets", "info", .slot], .plain, by decide⟩
def InfoMarketApi.publish : Endpoint :=
  ⟨.post, ["api", "markets", "info"], .bodyKwargs, by decide⟩
def InfoMarketApi.getContent : Endpoint :=
  ⟨.get, ["api", "markets", "info", .slot, "content"], .plain, by decide⟩
def InfoMarketApi.purchase : Endpoint :=
  ⟨.post, ["api", "markets", "info", .slot, "purchase"], .bodyKwargs, by decide⟩
def InfoMarketApi.deliver : Endpoint :=
  ⟨.post, ["api", "markets", "info", .slot, "deliver"], .bodyKwargs, by decide⟩
def InfoMarketApi.confirm : Endpoint :=
  ⟨.post, ["api", "markets", "info", .slot, "confirm"], .bodyKwargs, by decide⟩
def InfoMarketApi.review : Endpoint :=
  ⟨.post, ["api", "markets", "info", .slot, "review"], .bodyKwargs, by decide⟩
def InfoMarketApi.remove : Endpoint :=
  ⟨.delete, ["api", "markets", "info", .slot], .droppedKwargs, by decide⟩
def InfoMarketApi.subscribe : Endpoint :=
  ⟨.post, ["api", "markets", "info", .slot, "subscribe"], .bodyKwargs, by decide⟩
def InfoMarketApi.unsubscribe : Endpoint :=
  ⟨.post, ["api", "markets", "info", .slot, "unsubscribe"], .bodyKwargs, by decide⟩
def InfoMarketApi.getDelivery : Endpoint :=
  ⟨.get, ["api", "markets", "info", "orders", .slot, "delivery"], .plain, by decide⟩

def TaskMarketApi.list : Endpoint := ⟨.get, ["api", "markets", "tasks"], .queryKwargs, by decide⟩
def TaskMarketApi.get : Endpoint := ⟨.get, ["api", "markets", "tasks", .slot], .plain, by decide⟩
def TaskMarketApi.publish : Endpoint :=
  ⟨.post, ["api", "markets", "tasks"], .bodyKwargs, by decide⟩
def TaskMarketApi.getBids : Endpoint :=
  ⟨.get, ["api", "markets", "tasks", .slot, "bids"], .plain, by decide⟩
def TaskMarketApi.bid : Endpoint :=
  ⟨.post, ["api", "markets", "tasks", .slot, "bids"], .bodyKwargs, by decide⟩
def TaskMarketApi.acceptBid : Endpoint :=
  ⟨.post, ["api", "markets", "tasks", .slot, "accept"], .bodyKwargs, by decide⟩
def TaskMarketApi.rejectBid : Endpoint :=
  ⟨.post, ["api", "markets", "tasks", .slot, "reject"], .bodyKwargs, by decide⟩
def TaskMarketApi.withdrawBid : Endpoint :=
  ⟨.post, ["api", "markets", "tasks", .slot, "withdraw"], .bodyKwargs, by decide⟩
def TaskMarketApi.deliver : Endpoint :=
  ⟨.post, ["api", "markets", "tasks", .slot, "deliver"], .bodyKwargs, by decide⟩
def TaskMarketApi.confirm : Endpoint :=
  ⟨.post, ["api", "markets", "tasks", .slot, "confirm"], .bodyKwargs, by decide⟩
def TaskMarketApi.review : Endpoint :=
  ⟨.post, ["api", "markets", "tasks", .slot, "review"], .bodyKwargs, by decide⟩
def TaskMarketApi.remove : Endpoint :=
  ⟨.delete, ["api", "markets", "tasks", .slot], .droppedKwargs, by decide⟩

def CapabilityMarketApi.list : Endpoint :=
  ⟨.get, ["api", "markets", "capabilities"], .queryKwargs, by decide⟩
def CapabilityMarketApi.get : Endpoint :=
  ⟨.get, ["api", "markets", "capabilities", .slot], .plain, by decide⟩
def CapabilityMarketApi.publish : Endpoint :=
  ⟨.post, ["api", "markets", "capabilities"], .bodyKwargs, by decide⟩
def CapabilityMarketApi.lease : Endpoint :=
  ⟨.post, ["api", "markets", "capabilities", .slot, "lease"], .bodyKwargs, by decide⟩
def CapabilityMarketApi.getLeaseDetail : Endpoint :=
  ⟨.get, ["api", "markets", "capabilities", .slot, "leases", .slot], .plain, by decide⟩
def CapabilityMarketApi.invoke : Endpoint :=
  ⟨.post, ["api", "markets", "capabilities", .slot, "leases", .slot, "invoke"], .bodyKwargs,
    by decide⟩
def CapabilityMarketApi.pauseLease : Endpoint :=
  ⟨.post, ["api", "markets", "capabilities", .slot, "leases", .slot, "pause"], .bodyKwargs,
    by decide⟩
def CapabilityMarketApi.resumeLease : Endpoint :=
  ⟨.post, ["api", "markets", "capabilities", .slot, "leases", .slot, "resume"], .bodyKwargs,
    by decide⟩
def CapabilityMarketApi.terminateLease : Endpoint :=
  ⟨.post, ["api", "markets", "capabilities", .slot, "leases", .slot, "terminate"], .bodyKwargs,
    by decide⟩
def CapabilityMarketApi.remove : Endpoint :=
  ⟨.delete, ["api", "markets", "capabilities", .slot], .droppedKwargs, by decide⟩

def MarketDisputeApi.«open» : Endpoint :=
  ⟨.post, ["api", "markets", .slot, .slot, "dispute"], .bodyKwargs, by decide⟩
def MarketDisputeApi.respond : Endpoint :=
  ⟨.post, ["api", "markets", .slot, .slot, "dispute", .slot, "respond"], .bodyKwargs, by decide⟩
def MarketDisputeApi.resolve : Endpoint :=
  ⟨.post, ["api", "markets", .slot, .slot, "dispute", .slot, "resolve"], .bodyKwargs, by decide⟩

def MarketsApi.search : Endpoint :=
  ⟨.get, ["api", "markets", "search"], .queryKwargs, by decide⟩

def AsyncInfoMarketApi.remove : Endpoint :=
  ⟨.delete, ["api", "markets", "info", .slot], .plain, by decide⟩
def AsyncTaskMarketApi.remove : Endpoint :=
  ⟨.delete, ["api", "markets", "tasks", .slot], .plain, by decide⟩
def AsyncCapabilityMarketApi.remove : Endpoint :=
  ⟨.delete, ["api", "markets", "capabilities", .slot], .plain, by decide⟩

def identityApi : List Endpoint :=
  [IdentityApi.get, IdentityApi.resolve, IdentityApi.listCapabilities,
    IdentityApi.registerCapability]

def contractsApi : List Endpoint :=
  [ContractsApi.list, ContractsApi.get, ContractsApi.create, ContractsApi.sign, ContractsApi.fund,
    ContractsApi.complete, ContractsApi.submitMilestone, ContractsApi.approveMilestone,
    ContractsApi.rejectMilestone, ContractsApi.openDispute, ContractsApi.resolveDispute,
    ContractsApi.settlement]

def daoApi : List Endpoint :=
  [DaoApi.listProposals, DaoApi.getProposal, DaoApi.createProposal, DaoApi.advanceProposal,
    DaoApi.getVotes, DaoApi.vote, DaoApi.delegate, DaoApi.revokeDelegation, DaoApi.getDelegations,
    DaoApi.getTreasury, DaoApi.deposit, DaoApi.listTimelock, DaoApi.executeTimelock,
    DaoApi.cancelTimelock, DaoApi.getParams]

def reputationApi : List Endpoint :=
  [ReputationApi.getProfile, ReputationApi.getReviews, ReputationApi.record]

def nodeApi : List Endpoint := [NodeApi.getStatus, NodeApi.getPeers, NodeApi.getConfig]

def walletApi : List Endpoint :=
  [WalletApi.getBalance, WalletApi.transfer, WalletApi.getHistory, WalletApi.createEscrow,
    WalletApi.getEscrow, WalletApi.releaseEscrow, WalletApi.fundEscrow, WalletApi.refundEscrow,
    WalletApi.expireEscrow]

def infoMarketApi : List Endpoint :=
  [InfoMarketApi.list, InfoMarketApi.get, InfoMarketApi.publish, InfoMarketApi.getContent,
    InfoMarketApi.purchase, InfoMarketApi.deliver, InfoMarketApi.confirm, InfoMarketApi.review,
    InfoMarketApi.remove, InfoMarketApi.subscribe, InfoMarketApi.unsubscribe,
    InfoMarketApi.getDelivery]

def taskMarketApi : List Endpoint :=
  [TaskMarketApi.list, TaskMarketApi.get, TaskMarketApi.publish, TaskMarketApi.getBids,
    TaskMarketApi.bid, TaskMarketApi.acceptBid, TaskMarketApi.rejectBid, TaskMarketApi.withdrawBid,
    TaskMarketApi.deliver, TaskMarketApi.confirm, TaskMarketApi.review, TaskMarketApi.remove]

def capabilityMarketApi : List Endpoint :=
  [CapabilityMarketApi.list, CapabilityMarketApi.get, CapabilityMarketApi.publish,
    CapabilityMarketApi.lease, CapabilityMarketApi.getLeaseDetail, CapabilityMarketApi.invoke,
    CapabilityMarketApi.pauseLease, CapabilityMarketApi.resumeLease,
    CapabilityMarketApi.terminateLease, CapabilityMarketApi.remove]

def marketDisputeApi : List Endpoint :=
  [MarketDisputeApi.«open», MarketDisputeApi.respond, MarketDisputeApi.resolve]

/-- The async classes of `identity`, `contracts`, `dao`, `reputation`, `node` and `wallet` have the
sync methods and templates. The async markets lack `get_content`, `subscribe`, `unsubscribe`,
`get_delivery`, `get_bids`, `reject_bid`, `withdraw_bid`, `get_lease_detail`, the lease
`pause`/`resume`/`terminate` and `respond`, and their `remove` takes no `**kwargs`. -/
def asyncMarketsApi : List Endpoint :=
  [InfoMarketApi.list, InfoMarketApi.get, InfoMarketApi.publish, InfoMarketApi.purchase,
    InfoMarketApi.deliver, InfoMarketApi.confirm, InfoMarketApi.review, AsyncInfoMarketApi.remove,
    TaskMarketApi.list, TaskMarketApi.get, TaskMarketApi.publish, TaskMarketApi.bid,
    TaskMarketApi.acceptBid, TaskMarketApi.deliver, TaskMarketApi.confirm, TaskMarketApi.review,
    AsyncTaskMarketApi.remove,
    CapabilityMarketApi.list, CapabilityMarketApi.get, CapabilityMarketApi.publish,
    CapabilityMarketApi.lease, CapabilityMarketApi.invoke, AsyncCapabilityMarketApi.remove,
    MarketDisputeApi.«open», MarketDisputeApi.resolve, MarketsApi.search]

/-- The classes whose async variant has the same methods and templates. -/
def coreApi : List Endpoint :=
  identityApi ++ contractsApi ++ daoApi ++ reputationApi ++ nodeApi ++ walletApi

def marketsApi : List Endpoint :=
  infoMarketApi ++ taskMarketApi ++ capabilityMarketApi ++ marketDisputeApi ++ [MarketsApi.search]

def syncApi : List Endpoint := coreApi ++ marketsApi

def asyncApi : List Endpoint := coreApi ++ asyncMarketsApi

/-- Every wrapper method of both packages, sync and async. -/
def api : List Endpoint := syncApi ++ asyncApi

end ClawNet.Api
