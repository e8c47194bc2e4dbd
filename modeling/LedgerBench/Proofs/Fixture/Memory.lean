import LedgerBench.Fixture.Ledger
import LedgerBench.Proofs.AccountNames
import LedgerBench.Proofs.Client.Memory

/-! What helpers do over a connection to a server in memory. Work on such a scene is told by the
server and the book that it leaves; the reporter has recorded more calls, and nothing else differs. -/

namespace LedgerBench

namespace Server

def take (server : Server) (tx : Transaction) : Server :=
  { server with current := (server.current.apply tx).2 }

def settle (server : Server) : Server :=
  { server with validated := server.current, index := server.index + 1 }

def propose (server : Server) : Server :=
  { server with keys := server.keys.draw.2 }.withKeys server.keys.draw.1

end Server

namespace Fixture

open StepM (bind_ok bind_error)

variable {ε α β : Type}

/-! ### Work in order -/

theorem get_ok {σ : Type} (scene : Scene (Bench ε) (Fixture σ)) :
    (get : FixtureM σ ε (Scene (Bench ε) (Fixture σ))) scene = (.ok scene, scene) := rfl

theorem inContext_ok {work : FixtureM Link ε α} {scene scene' : Scene (Bench ε) (Fixture Link)}
    {a : α} (h : work scene = (.ok a, scene')) (context : String) :
    (work.inContext context) scene = (.ok a, scene') := by
  simp only [StepM.inContext, h]
  rfl

theorem inContext_error {work : FixtureM Link ε α} {scene scene' : Scene (Bench ε) (Fixture Link)}
    {failure : Failure} (h : work scene = (.error failure, scene')) (context : String) :
    (work.inContext context) scene = (.error (failure.inContext context), scene') := by
  simp only [StepM.inContext, h]
  rfl

theorem ofExcept_ok {result : Except Failure α} {a : α} (h : result = .ok a)
    (scene : Scene (Bench ε) (Fixture Link)) :
    (MonadExcept.ofExcept result : FixtureM Link ε α) scene = (.ok a, scene) := by
  rw [h]
  rfl

theorem ofExcept_error {result : Except Failure α} {failure : Failure} (h : result = .error failure)
    (scene : Scene (Bench ε) (Fixture Link)) :
    (MonadExcept.ofExcept result : FixtureM Link ε α) scene = (.error failure, scene) := by
  rw [h]
  rfl

/-! ### Calls -/

/-- The scene with a server in memory behind its connection. -/
def linkedTo (scene : Scene (Bench ε) (Fixture Link)) (reporter : Reporter) (server : Server)
    (book : AccountBook) : Scene (Bench ε) (Fixture Link) :=
  { scene with
    stage := { scene.stage with reporter }
    value := { scene.value with remote := some (.memory server), book } }

def bareScene (server : Server) (book : AccountBook) : Scene (Bench Empty) (Fixture Link) :=
  let bench : Bench Empty := ⟨.bare "/home/divvy", .offline, server.keys, []⟩
  linkedTo (Stage.open ⟨.start, .start true, "memory://", [], bench⟩ "scenario") (.start true) server
    book

/-- The secret that the book has for an account is the one that the server has for it. -/
def KnowsSecret (book : AccountBook) (server : Server) (account : String) : Prop :=
  ∃ secret, book.secretFor account = .ok secret ∧ server.secrets.get? secret = some account

section Calls

variable {scene : Scene (Bench ε) (Fixture Link)} {reporter reporter' : Reporter}
  {server later : Server} {book : AccountBook} {a : α} {tx : Transaction}

theorem linkedTo_self (h : scene.value.remote = some (.memory server)) :
    linkedTo scene scene.stage.reporter server scene.value.book = scene := by
  rw [linkedTo, ← h]

theorem ask_linkedTo {op : ClientM Link α} {result : Except Fault α}
    (h : op ⟨.memory server, reporter⟩ = (result, ⟨.memory later, reporter'⟩))
    (scene : Scene (Bench ε) (Fixture Link)) (book : AccountBook) :
    ask op (linkedTo scene reporter server book) =
      (.ok result, linkedTo scene reporter' later book) := by
  simp only [ask, linkedTo, h]

theorem call_linkedTo {op : ClientM Link α}
    (h : op ⟨.memory server, reporter⟩ = (.ok a, ⟨.memory later, reporter'⟩))
    (scene : Scene (Bench ε) (Fixture Link)) (book : AccountBook) :
    call op (linkedTo scene reporter server book) = (.ok a, linkedTo scene reporter' later book) :=
  bind_ok (ask_linkedTo h scene book) _

theorem call_error_linkedTo {op : ClientM Link α} {fault : Fault}
    (h : op ⟨.memory server, reporter⟩ = (.error fault, ⟨.memory later, reporter'⟩))
    (scene : Scene (Bench ε) (Fixture Link)) (book : AccountBook) :
    call op (linkedTo scene reporter server book) =
      (.error fault.toFailure, linkedTo scene reporter' later book) :=
  bind_ok (ask_linkedTo h scene book) _

theorem connected_linkedTo (scene : Scene (Bench ε) (Fixture Link)) (reporter : Reporter)
    (server : Server) (book : AccountBook) :
    connected (linkedTo scene reporter server book) =
      (.ok (), linkedTo scene reporter server book) := rfl

theorem address_linkedTo {name found : String} (h : book.address name = .ok found)
    (scene : Scene (Bench ε) (Fixture Link)) (reporter : Reporter) (server : Server) :
    address name (linkedTo scene reporter server book) =
      (.ok found, linkedTo scene reporter server book) :=
  ofExcept_ok h _

theorem amount_linkedTo {text : String} {amount : Amount} (h : book.amount text = .ok amount)
    (scene : Scene (Bench ε) (Fixture Link)) (reporter : Reporter) (server : Server) :
    Fixture.amount text (linkedTo scene reporter server book) =
      (.ok amount, linkedTo scene reporter server book) :=
  ofExcept_ok h _

theorem submit_linkedTo (hopen : server.closed = false) (hknows : KnowsSecret book server tx.account)
    (scene : Scene (Bench ε) (Fixture Link)) (reporter : Reporter) :
    ∃ reporter', submit tx (linkedTo scene reporter server book) =
      (.ok (server.current.apply tx).1, linkedTo scene reporter' (server.take tx) book) := by
  obtain ⟨secret, hsecret, hknown⟩ := hknows
  obtain ⟨reporter', hsubmit⟩ := Client.submit_memory hopen reporter hknown
  have hcall := call_linkedTo hsubmit scene book
  have hfound : (linkedTo scene reporter server book).value.book.secretFor tx.account =
      .ok secret := hsecret
  refine ⟨reporter', ?_⟩
  rw [submit, bind_ok (connected_linkedTo ..), bind_ok (get_ok _), bind_ok (ofExcept_ok hfound _),
    bind_ok hcall]
  rfl

theorem ledgerAccept_linkedTo (server : Server) (hopen : server.closed = false)
    (scene : Scene (Bench ε) (Fixture Link)) (reporter : Reporter) (book : AccountBook) :
    ∃ reporter', ledgerAccept (linkedTo scene reporter server book) =
      (.ok (), linkedTo scene reporter' server.settle book) := by
  obtain ⟨reporter', haccept⟩ := Client.ledgerAccept_memory hopen reporter
  exact ⟨reporter', call_linkedTo haccept scene book⟩

theorem submitAndAccept_linkedTo (hopen : server.closed = false)
    (hknows : KnowsSecret book server tx.account) (scene : Scene (Bench ε) (Fixture Link))
    (reporter : Reporter) :
    ∃ reporter', submitAndAccept tx (linkedTo scene reporter server book) =
      (.ok (server.current.apply tx).1,
        linkedTo scene reporter' (server.take tx).settle book) := by
  obtain ⟨middle, hsubmit⟩ := submit_linkedTo hopen hknows scene reporter
  obtain ⟨reporter', haccept⟩ := ledgerAccept_linkedTo (server.take tx) hopen scene middle book
  refine ⟨reporter', ?_⟩
  rw [submitAndAccept, bind_ok hsubmit, bind_ok haccept]
  rfl

theorem submitTransaction_linkedTo (hopen : server.closed = false)
    (hknows : KnowsSecret book server tx.account)
    (hsuccess : (server.current.apply tx).1 = .success) (scene : Scene (Bench ε) (Fixture Link))
    (reporter : Reporter) :
    ∃ reporter', submitTransaction tx (linkedTo scene reporter server book) =
      (.ok (), linkedTo scene reporter' (server.take tx).settle book) := by
  obtain ⟨middle, hsubmit⟩ := submit_linkedTo hopen hknows scene reporter
  obtain ⟨reporter', haccept⟩ := ledgerAccept_linkedTo (server.take tx) hopen scene middle book
  refine ⟨reporter', ?_⟩
  rw [hsuccess] at hsubmit
  rw [submitTransaction, bind_ok hsubmit]
  exact haccept

def notSucceeded (tx : Transaction) (result : EngineResult) : Failure :=
  .plain (tx.typeName ++ " failed with " ++ result.code)

theorem submitTransaction_error (hopen : server.closed = false)
    (hknows : KnowsSecret book server tx.account)
    (hfails : (server.current.apply tx).1 ≠ .success) (scene : Scene (Bench ε) (Fixture Link))
    (reporter : Reporter) :
    ∃ reporter', submitTransaction tx (linkedTo scene reporter server book) =
      (.error (notSucceeded tx (server.current.apply tx).1),
        linkedTo scene reporter' (server.take tx) book) := by
  obtain ⟨reporter', hsubmit⟩ := submit_linkedTo hopen hknows scene reporter
  have hnot : (server.current.apply tx).1.isSuccess = false := beq_eq_false_iff_ne.2 hfails
  refine ⟨reporter', ?_⟩
  rw [submitTransaction, bind_ok hsubmit]
  simp only [hnot]
  rfl

/-- A round up to the point at which the account has keys and a name. -/
theorem createAccount_linkedTo (hopen : server.closed = false) (payer : String) (amount : Amount)
    (defaultDivvy : Bool) (name : String) (scene : Scene (Bench ε) (Fixture Link))
    (reporter : Reporter) (book : AccountBook) :
    ∃ reporter', createAccount payer amount defaultDivvy name
        (linkedTo scene reporter server book) =
      (do
        (submitTransaction (.payment payer server.keys.draw.1.address amount false)).inContext
          s!"Could not fund [{name}]"
        if defaultDivvy then
          (submitTransaction (.accountSet server.keys.draw.1.address 0 (some .defaultDivvy)
            none)).inContext s!"Could not set DefaultDivvy on [{name}]" : FixtureM Link ε Unit)
        (linkedTo scene reporter' server.propose (book.insert name server.keys.draw.1)) := by
  obtain ⟨reporter', hpropose⟩ := Client.walletPropose_memory hopen reporter
  have hkeys := inContext_ok (call_linkedTo hpropose scene book)
    s!"Could not create keys for [{name}]"
  have hnamed : modifyBook (·.insert name server.keys.draw.1)
      (linkedTo scene reporter' server.propose book) =
        (.ok (), linkedTo scene reporter' server.propose (book.insert name server.keys.draw.1)) :=
    rfl
  refine ⟨reporter', ?_⟩
  rw [createAccount, bind_ok (connected_linkedTo ..), bind_ok hkeys]
  exact bind_ok hnamed _

end Calls
end Fixture
end LedgerBench
