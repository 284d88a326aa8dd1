import MessageQueue.Url.Reader

/-!
# The host of an address

A request names the host that it is for, and the port unless the scheme implies it (`Url.named`).  A
URL keeps its host in the form in which it is written, and reading leaves out a port that the scheme
implies, so the host that stands in a URL is the one that requests name (`hostText_eq_named`).
-/

namespace MessageQueue.Url

open MessageQueue.Text

/-- The host as a request to the URL names it. -/
def named (u : Url) : List Char :=
  u.host ++
    match u.port with
    | some p => if impliedPort? u.scheme = some p then [] else ':' :: Nat.toDigits 10 p
    | none => []

/-- A port that is not the one that the scheme implies. -/
def Unimplied (scheme : List Char) (port : Option Nat) : Prop :=
  ∀ p ∈ port, impliedPort? scheme ≠ some p

theorem hostText_of_unimplied {u : Url} (unimplied : Unimplied u.scheme u.port) :
    u.hostText = u.named := by
  rw [hostText, portText, named]
  cases port : u.port with
  | none => rfl
  | some p =>
    have other := unimplied p port
    simp only [if_neg other]

/-! ## Reading the port -/

/-- What comes of two readings in a row comes of the second, after the first has come to
something. -/
theorem ok_of_bind {α β : Type} {first : Except UrlError α} {next : α → Except UrlError β} {b : β}
    (read : first >>= next = .ok b) : ∃ a, first = .ok a ∧ next a = .ok b := by
  cases first with
  | error e => cases read
  | ok a => exact ⟨a, rfl, read⟩

theorem unimplied_of_port? {scheme text : List Char} {port : Option Nat}
    (read : port? scheme text = .ok port) :
    Unimplied scheme port := by
  rintro p rfl
  unfold port? at read
  split at read
  next =>
    split at read
    next => cases read
    next =>
      split at read
      next n _ =>
        split at read
        next => cases read
        next =>
          split at read
          next => cases read
          next other =>
            cases read
            exact other
      next => cases read
  next => cases read

namespace Authority

theorem unimplied_of_readPort {scheme host : List Char} {text : Option (List Char)}
    {port : Option Nat} (read : readPort scheme host text = .ok port) : Unimplied scheme port := by
  cases text with
  | none =>
    cases read
    rintro p ⟨⟩
  | some text =>
    rw [readPort] at read
    split at read
    next => cases read
    next => exact unimplied_of_port? read

theorem unimplied_of_parse {scheme text : List Char} {followed : Bool} {a : Authority}
    (read : parse scheme text followed = .ok a) : Unimplied scheme a.port := by
  obtain ⟨⟨username, password, hostAndPort⟩, -, afterUser⟩ := ok_of_bind read
  obtain ⟨host, -, afterHost⟩ := ok_of_bind afterUser
  obtain ⟨port, portRead, whole⟩ := ok_of_bind afterHost
  split at whole
  next => cases whole
  next =>
    cases whole
    exact unimplied_of_readPort portRead

theorem unimplied_of_ofFile {scheme text : List Char} {a : Authority} (read : ofFile text = .ok a) :
    Unimplied scheme a.port := by
  unfold ofFile at read
  dsimp only at read
  split at read
  all_goals
    obtain ⟨host, -, whole⟩ := ok_of_bind read
    cases whole
    rintro p ⟨⟩

end Authority

/-! ## Reading the whole -/

theorem unimplied_of_withAuthority {scheme text : List Char} {u : Url}
    (read : withAuthority scheme text = .ok u) :
    Unimplied u.scheme u.port := by
  unfold withAuthority at read
  dsimp only at read
  split at read
  next =>
    obtain ⟨a, authority, whole⟩ := ok_of_bind read
    cases whole
    exact Authority.unimplied_of_ofFile authority
  next =>
    obtain ⟨a, authority, whole⟩ := ok_of_bind read
    cases whole
    exact Authority.unimplied_of_parse authority

/-- The host that stands in a URL is the one that requests to it name. -/
theorem hostText_eq_named {text : String} {u : Url} (read : parse text = .ok u) :
    u.hostText = u.named := by
  apply hostText_of_unimplied
  unfold parse at read
  split at read
  next => cases read
  next scheme rest _ =>
    split at read
    next => exact unimplied_of_withAuthority read
    next =>
      split at read
      next => exact unimplied_of_withAuthority read
      next =>
        split at read
        next => exact unimplied_of_withAuthority read
        next =>
          cases read
          rintro p ⟨⟩

end MessageQueue.Url
