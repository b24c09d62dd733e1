import CertIssuer.Authority.Client

/-!
An endpoint with prepared responses: each call is answered with the next one, and the last one again
and again. The endpoint keeps the requests that reached it.
-/

namespace CertIssuer

/-- An endpoint; a missing response stands for a connection that is closed without one. -/
structure Endpoint where
  responses : List (Option WireResponse)
  received : List WireRequest

namespace Endpoint

/-- An endpoint that nothing has reached yet. -/
def new (responses : List (Option WireResponse)) : Endpoint := ⟨responses, []⟩

/-- The item at an index, or the last one. -/
def atOrLast {α : Type} (items : List α) (index : Nat) : Option α :=
  items[index]?.or items.getLast?

/-- The response to the next request. -/
def response (e : Endpoint) : Option WireResponse :=
  (atOrLast e.responses e.received.length).join

/-- One call of a client: its outcome, what is logged, and the endpoint after it. -/
def call (e : Endpoint) (c : Client) (r : SignRequest) :
    (Except SignError SignResponse × List Log.Event) × Endpoint :=
  (c.exchange r e.response,
    match c.request r with
    | .ok request => { e with received := e.received ++ [request] }
    | .error _ => e)

/-- Whether an outcome comes from a response, and not from the lack of one. -/
def isAnswered : Except SignError SignResponse → Bool
  | .error (.transport _) => false
  | _ => true

/-- Several calls of a client, one after the other. -/
def calls (e : Endpoint) (c : Client) :
    List SignRequest → List (Except SignError SignResponse) × Endpoint
  | [] => ([], e)
  | r :: rest =>
    let (called, after) := e.call c r
    let (more, last) := after.calls c rest
    (called.1 :: more, last)

end Endpoint
end CertIssuer
