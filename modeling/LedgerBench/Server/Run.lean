import LedgerBench.Server.Request

/-! What becomes of a server in the course of many calls. -/

namespace LedgerBench.Server

inductive Call where
  | request (command : String) (params : Json)
  | close

def step (server : Server) : Call → Server
  | .request command params => (server.request command params).2
  | .close => server.close

def after (server : Server) (calls : List Call) : Server :=
  calls.foldl step server

/-- A server that some calls lead to from a fresh one. -/
def Reachable (server : Server) : Prop :=
  ∃ keys calls, server = (start keys).after calls

@[simp] theorem after_nil (server : Server) : server.after [] = server := rfl

@[simp] theorem after_append_singleton (server : Server) (calls : List Call) (call : Call) :
    server.after (calls ++ [call]) = (server.after calls).step call := by
  simp [after]

/-- What a fresh server has and every call keeps holds of all servers that calls lead to. -/
theorem Reachable.induction {P : Server → Prop} (hstart : ∀ keys, P (start keys))
    (hrequest : ∀ server command params, P server → P (server.request command params).2)
    (hclose : ∀ server, P server → P server.close) {server : Server} (h : server.Reachable) :
    P server := by
  obtain ⟨keys, calls, rfl⟩ := h
  suffices hcalls : ∀ s, P s → P (s.after calls) from hcalls _ (hstart keys)
  induction calls with
  | nil => exact fun s hs => hs
  | cons call calls ih =>
    intro s hs
    cases call with
    | request command params => exact ih _ (hrequest s command params hs)
    | close => exact ih _ (hclose s hs)

theorem start_reachable (keys : KeySource) : (start keys).Reachable :=
  ⟨keys, [], rfl⟩

theorem after_reachable (keys : KeySource) (calls : List Call) :
    ((start keys).after calls).Reachable :=
  ⟨keys, calls, rfl⟩

end LedgerBench.Server
