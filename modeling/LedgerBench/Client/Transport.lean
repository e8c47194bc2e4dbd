import LedgerBench.Server.Request

/-! What carries requests to a server and brings back its envelopes. -/

namespace LedgerBench

class Transport (σ : Type) where
  request : String → Json → σ → Except RemoteError Json × σ
  close : σ → Except RemoteError Unit × σ

instance : Transport Server where
  request command params server := server.request command params
  close server := (.ok (), server.close)

/-- A transport that answers from a list prepared beforehand and keeps the requests it got. A
request without an answer left finds the connection closed. -/
structure ScriptedTransport where
  replies : List (Except RemoteError Json)
  requests : List (String × Json)

instance : Transport ScriptedTransport where
  request command params link :=
    (link.replies.headD (.error .closed),
      ⟨link.replies.tail, link.requests ++ [(command, params)]⟩)
  close link := (.ok (), link)

end LedgerBench
