import MessageQueue.Client.Basic

/-!
# Without a network

What becomes of requests when nothing listens at any address.  A request that cannot be put into the
form of the protocol fails before a connection is tried: its address has another scheme, or a header
holds a character that no header can carry.
-/

namespace MessageQueue

namespace HttpRequest

/-- Whether a header can carry a value: it holds no controls but tabs. -/
def carries (value : String) : Bool :=
  value.toList.all fun c => c = '\t' || (0x20 ≤ c.toNat && c.toNat ≠ 0x7F)

/-- Why a request cannot be posted at all, if it cannot. -/
def fault? (r : HttpRequest) : Option String :=
  if r.url.scheme ≠ "http".toList ∧ r.url.scheme ≠ "https".toList then
    some "HTTP request failed: the scheme of the address is not allowed"
  else if r.headers.any fun h => !carries h.2 then
    some "HTTP request failed: a header value is not valid"
  else none

/-- Why there is no answer when nothing listens. -/
def refusal (r : HttpRequest) : String :=
  match r.fault? with
  | some fault => fault
  | none => "Connection failed: error sending request for url (" ++ r.url.text ++ ")"

end HttpRequest

/-- A world in which nothing listens. -/
def Transport.unreachable {m : Type → Type} [Monad m] (now : m Timestamp)
    (decided : FailedAttempt → Option Pause → m Unit) : Transport m where
  now
  post r := pure (.error r.refusal)
  decided

end MessageQueue
