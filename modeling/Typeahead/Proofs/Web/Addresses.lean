import Mathlib.Data.List.TakeWhile
import Typeahead.Proofs.Web.Paths
import Typeahead.Web.Network

/-!
# Reading addresses

An address that is spelled with a scheme, an authority and a path is read part by
part: its path is resolved and encoded, and the parts in front of the path do not
depend on it (`ofText_eq`).
-/

namespace Typeahead.Web

open Typeahead.Text

set_option autoImplicit false

/-- One letter or more. -/
def IsScheme (scheme : List Char) : Prop := scheme ≠ [] ∧ ∀ c ∈ scheme, isAsciiLetter c = true

instance (scheme : List Char) : Decidable (IsScheme scheme) :=
  have : Decidable (∀ c ∈ scheme, isAsciiLetter c = true) := List.decidableBAll _ scheme
  inferInstanceAs (Decidable (_ ∧ _))

/-- Nothing in the text ends an authority. -/
def IsAuthority (authority : List Char) : Prop := ∀ c ∈ authority, c ≠ '/' ∧ c ≠ '?' ∧ c ≠ '#'

instance (authority : List Char) : Decidable (IsAuthority authority) :=
  List.decidableBAll (fun c => c ≠ '/' ∧ c ≠ '?' ∧ c ≠ '#') authority

/-- Every character that an address may not hold unencoded lies beyond ASCII. -/
def Printed (text : List Char) : Prop := ∀ c ∈ text, c.toNat < 0x80 → isPrintableAscii c = true

theorem printed_append {first second : List Char} :
    Printed (first ++ second) ↔ Printed first ∧ Printed second :=
  List.forall_mem_append

/-! ## Splitting -/

theorem splitScheme_of_isScheme {scheme : List Char} (isScheme : IsScheme scheme)
    (rest : List Char) : splitScheme (scheme ++ ':' :: rest) = (scheme, rest) := by
  obtain ⟨filled, letters⟩ := isScheme
  have name : (scheme ++ ':' :: rest).takeWhile (fun c =>
      isAsciiLetter c || isAsciiDigit c || c == '+' || c == '.' || c == '-') = scheme := by
    rw [List.takeWhile_append_of_pos (fun c member => by rw [letters c member]; rfl)]
    exact (congrArg _ (List.takeWhile_cons_of_neg (by decide))).trans (List.append_nil scheme)
  obtain ⟨c, others, rfl⟩ := List.exists_cons_of_ne_nil filled
  have startsWell : isAsciiLetter c = true := letters c List.mem_cons_self
  simp only [splitScheme, name, List.drop_left, startsWell, if_true]

theorem splitAuthority_of_isAuthority {authority : List Char} (isAuthority : IsAuthority authority)
    (path : List Char) :
    splitAuthority ('/' :: '/' :: (authority ++ '/' :: path)) = (authority, '/' :: path) := by
  have inside : ∀ c ∈ authority, (!(c == '/' || c == '?' || c == '#')) = true := by
    intro c member
    obtain ⟨noSlash, noQuery, noFragment⟩ := isAuthority c member
    simp [noSlash, noQuery, noFragment]
  have ends : (!('/' == '/' || '/' == '?' || '/' == '#')) = false := rfl
  rw [splitAuthority, List.takeWhile_append_of_pos inside, List.dropWhile_append_of_pos inside,
    List.takeWhile_cons, List.dropWhile_cons, ends]
  simp

theorem splitAtFirst_of_not_mem {mark : Char} {text : List Char} (absent : mark ∉ text) :
    splitAtFirst mark text = (text, none) := by
  have all : text.dropWhile (· != mark) = [] :=
    List.dropWhile_eq_nil_iff.mpr fun c member => bne_iff_ne.mpr fun same => absent (same ▸ member)
  rw [splitAtFirst, all]

/-! ## Reading -/

/-- What is read in front of a path: the scheme, the user, the host and the port. -/
def originOf (scheme authority : List Char) : Except AddressFault Address := do
  let (userinfo, hostAndPort) := splitAtLast '@' authority
  let (rawHost, rawPort) := splitHost hostAndPort
  let host ← normalHost rawHost
  let port ← normalPort scheme rawPort
  return { scheme := scheme.map Char.toLower,
           userinfo := percentComplete isUserSafe (userinfo.getD []), host, port,
           path := [], query := none, fragment := none }

theorem unprintableAt?_eq_none_iff {text : List Char} :
    unprintableAt? text = none ↔ Printed text := by
  rw [unprintableAt?, List.findIdx?_eq_none_iff]
  refine forall₂_congr fun c _ => ?_
  by_cases low : c.toNat < 0x80
  · simp [low]
  · simp [low]

theorem checkPath_slash (path : List Char) (hasAuthority : Bool) :
    checkPath ('/' :: path) true hasAuthority = .ok () := by
  cases hasAuthority <;> rfl

/-- **An address is read part by part.** -/
theorem ofText_eq {text : String} {scheme authority path : List Char}
    (spelled : text.toList = scheme ++ ':' :: '/' :: '/' :: (authority ++ path))
    (isScheme : IsScheme scheme) (isAuthority : IsAuthority authority)
    (rooted : path.head? = some '/') (noQuery : '?' ∉ path) (noFragment : '#' ∉ path)
    (short : text.toList.length ≤ maxAddressLength) (printed : Printed text.toList) :
    Address.ofText text = (originOf scheme authority).map fun origin =>
      { origin with path := percentComplete isPathSafe (resolvePath path), query := none,
                    fragment := none } := by
  have hasScheme : (scheme.map Char.toLower).isEmpty = false := by
    rw [List.isEmpty_map]
    exact List.isEmpty_eq_false_iff.mpr isScheme.1
  obtain ⟨rest, rfl⟩ := List.head?_eq_some_iff.mp rooted
  rw [spelled] at short printed
  simp only [Address.ofText, spelled, unprintableAt?_eq_none_iff.mpr printed, if_neg (Nat.not_lt.mpr short),
    splitScheme_of_isScheme isScheme, splitAuthority_of_isAuthority isAuthority,
    splitAtFirst_of_not_mem noQuery, splitAtFirst_of_not_mem noFragment, originOf, hasScheme,
    Bool.not_false, checkPath_slash, Bool.true_or, if_true, Option.map_none]
  cases normalHost (splitHost (splitAtLast '@' authority).2).1 with
  | error fault => rfl
  | ok host =>
      cases normalPort scheme (splitHost (splitAtLast '@' authority).2).2 with
      | error fault => rfl
      | ok port => rfl

theorem ofText_of_long {text : String} (long : maxAddressLength < text.toList.length) :
    Address.ofText text = .error .tooLong := by
  simp only [Address.ofText, if_pos long]
  rfl

/-- A request goes to the address that its text names. -/
theorem requestAddress_of_isAbsolute {text : String} {address : Address}
    (isRead : Address.ofText text = .ok address) (absolute : address.isAbsolute = true) :
    requestAddress text = .ok address := by
  rw [requestAddress, isRead]
  exact if_pos absolute

/-- What is read is short and printed. -/
theorem printed_of_ofText {text : String} {address : Address}
    (isRead : Address.ofText text = .ok address) :
    text.toList.length ≤ maxAddressLength ∧ Printed text.toList := by
  by_cases long : maxAddressLength < text.toList.length
  · rw [ofText_of_long long] at isRead
    exact nomatch isRead
  · refine ⟨Nat.not_lt.mp long, ?_⟩
    cases found : unprintableAt? text.toList with
    | some position =>
        simp only [Address.ofText, found, if_neg long] at isRead
        exact nomatch isRead
    | none => exact unprintableAt?_eq_none_iff.mp found

end Typeahead.Web
