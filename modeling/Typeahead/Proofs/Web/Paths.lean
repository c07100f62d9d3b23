import Typeahead.Proofs.Web.Percent
import Typeahead.Web.Address

/-!
# Resolving paths

A path is its segments with slashes between them, and it is resolved segment by
segment.  A resolved path has no segment that is `.` or `..`
(`noDots_resolvePath`), and a path without such segments is resolved already
(`resolvePath_of_noDots`).  Encoding a path keeps its slashes and its points, so it
does not matter whether a path is encoded before it is resolved or behind
(`resolvePath_percentEncode`).
-/

namespace Typeahead.Web

open Typeahead.Text

set_option autoImplicit false

/-- The segment stands for this folder or for the one above. -/
def IsDots (segment : List Char) : Prop := segment = ['.'] ∨ segment = ['.', '.']

instance (segment : List Char) : Decidable (IsDots segment) :=
  inferInstanceAs (Decidable (_ ∨ _))

/-- No segment of the path stands for a folder that is named by its place. -/
def NoDots (path : List Char) : Prop := ∀ segment ∈ path.splitOn '/', ¬ IsDots segment

instance (path : List Char) : Decidable (NoDots path) :=
  List.decidableBAll (fun segment => ¬ IsDots segment) (path.splitOn '/')

/-! ## Segments -/

theorem joinSegments_splitOn (path : List Char) : joinSegments (path.splitOn '/') = path :=
  List.intercalate_splitOn '/'

/-- A segment has no slash and is made of characters of the path. -/
theorem mem_of_mem_splitOn {path segment : List Char} (member : segment ∈ path.splitOn '/') :
    ∀ c ∈ segment, c ≠ '/' ∧ c ∈ path := by
  induction path generalizing segment with
  | nil =>
      rw [List.splitOn_nil, List.mem_singleton] at member
      rw [member]
      exact nofun
  | cons d path inductionHypothesis =>
      rw [List.splitOn_cons_eq_if_modifyHead] at member
      split at member
      next =>
        rcases List.mem_cons.mp member with rfl | inside
        · exact nofun
        · intro c isIn
          obtain ⟨noSlash, among⟩ := inductionHypothesis inside c isIn
          exact ⟨noSlash, List.mem_cons_of_mem d among⟩
      next noSlash =>
        obtain ⟨first, others, parts⟩ := List.exists_cons_of_ne_nil (List.splitOn_ne_nil '/' path)
        rw [parts, List.modifyHead_cons] at member
        rw [parts] at inductionHypothesis
        intro c isIn
        rcases List.mem_cons.mp member with rfl | inside
        · rcases List.mem_cons.mp isIn with rfl | isIn
          · exact ⟨fun isSlash => noSlash (beq_iff_eq.mpr isSlash), List.mem_cons_self⟩
          · obtain ⟨noSlash, among⟩ := inductionHypothesis List.mem_cons_self c isIn
            exact ⟨noSlash, List.mem_cons_of_mem d among⟩
        · obtain ⟨noSlash, among⟩ :=
            inductionHypothesis (List.mem_cons_of_mem first inside) c isIn
          exact ⟨noSlash, List.mem_cons_of_mem d among⟩

theorem mem_joinSegments {segments : List (List Char)} {c : Char}
    (member : c ∈ joinSegments segments) : c = '/' ∨ ∃ segment ∈ segments, c ∈ segment := by
  induction segments with
  | nil => exact nomatch member
  | cons segment segments inductionHypothesis =>
      cases segments with
      | nil =>
          rw [joinSegments, List.intercalate_singleton] at member
          exact .inr ⟨segment, List.mem_cons_self, member⟩
      | cons next segments =>
          rw [joinSegments, List.intercalate_cons_cons, List.append_assoc, List.mem_append,
            List.mem_append, List.mem_singleton] at member
          rcases member with inside | slash | rest
          · exact .inr ⟨segment, List.mem_cons_self, inside⟩
          · exact .inl slash
          · rcases inductionHypothesis rest with slash | ⟨other, among, inside⟩
            · exact .inl slash
            · exact .inr ⟨other, List.mem_cons_of_mem segment among, inside⟩

/-! ## What is resolved -/

theorem mem_resolveSegments {done segments : List (List Char)} {segment : List Char}
    (member : segment ∈ resolveSegments done segments) :
    segment ∈ done ∨ segment ∈ segments ∧ ¬ IsDots segment := by
  induction segments generalizing done with
  | nil => exact .inl (List.mem_reverse.mp member)
  | cons first segments inductionHypothesis =>
      have later {done : List (List Char)} (inside : segment ∈ resolveSegments done segments) :
          segment ∈ done ∨ segment ∈ first :: segments ∧ ¬ IsDots segment := by
        rcases inductionHypothesis inside with before | ⟨behind, noDots⟩
        · exact .inl before
        · exact .inr ⟨List.mem_cons_of_mem first behind, noDots⟩
      rw [resolveSegments] at member
      split at member
      next => exact later member
      next noDot =>
        split at member
        next =>
          rcases later member with before | behind
          · split at before
            next => exact .inl before
            next => exact .inl (List.mem_of_mem_drop before)
          · exact .inr behind
        next noDots =>
          rcases later member with before | behind
          · rcases List.mem_cons.mp before with rfl | before
            · exact .inr ⟨List.mem_cons_self, fun dots => dots.elim noDot noDots⟩
            · exact .inl before
          · exact .inr behind

/-- **A resolved path has no segment that is `.` or `..`.** -/
theorem noDots_resolvePath (path : List Char) : NoDots (resolvePath path) := by
  have inside {segment : List Char}
      (member : segment ∈ resolveSegments [] (path.splitOn '/')) :
      segment ∈ path.splitOn '/' ∧ ¬ IsDots segment :=
    (mem_resolveSegments member).resolve_left List.not_mem_nil
  rw [NoDots, resolvePath]
  cases resolved : resolveSegments [] (path.splitOn '/') with
  | nil => decide
  | cons first others =>
      rw [resolved] at inside
      have slashless : ∀ segment ∈ first :: others, '/' ∉ segment := by
        intro segment member slash
        exact (mem_of_mem_splitOn (inside member).1 '/' slash).1 rfl
      rw [joinSegments, List.splitOn_intercalate '/' slashless (List.cons_ne_nil _ _)]
      exact fun segment member => (inside member).2

theorem mem_resolvePath {path : List Char} {c : Char} (member : c ∈ resolvePath path) :
    c = '/' ∨ c ∈ path := by
  rcases mem_joinSegments member with slash | ⟨segment, among, inside⟩
  · exact .inl slash
  · obtain ⟨isSegment, -⟩ := (mem_resolveSegments among).resolve_left List.not_mem_nil
    exact .inr (mem_of_mem_splitOn isSegment c inside).2

theorem resolveSegments_of_noDots {segments : List (List Char)}
    (noDots : ∀ segment ∈ segments, ¬ IsDots segment) (done : List (List Char)) :
    resolveSegments done segments = done.reverse ++ segments := by
  induction segments generalizing done with
  | nil => exact (List.append_nil _).symm
  | cons segment segments inductionHypothesis =>
      obtain ⟨named, others⟩ := List.forall_mem_cons.mp noDots
      obtain ⟨noDot, noTwoDots⟩ := not_or.mp named
      rw [resolveSegments, if_neg noDot, if_neg noTwoDots, inductionHypothesis others,
        List.reverse_cons, List.append_assoc, List.singleton_append]

/-- **A path without segments `.` and `..` is resolved.** -/
theorem resolvePath_of_noDots {path : List Char} (noDots : NoDots path) :
    resolvePath path = path := by
  rw [resolvePath, resolveSegments_of_noDots noDots, List.reverse_nil, List.nil_append,
    joinSegments_splitOn]

/-! ## What is encoded -/

section Encoding

variable {safe : Char → Bool}

theorem percentEncode_joinSegments (slash : safe '/' = true) (segments : List (List Char)) :
    percentEncode safe (joinSegments segments) =
      joinSegments (segments.map (percentEncode safe)) := by
  have one : percentEncode safe ['/'] = ['/'] :=
    percentEncode_of_safe (List.forall_mem_singleton.mpr slash)
  induction segments with
  | nil => rfl
  | cons segment segments inductionHypothesis =>
      cases segments with
      | nil => simp only [joinSegments, List.map_singleton, List.intercalate_singleton]
      | cons next segments =>
          simp only [joinSegments, List.map_cons] at inductionHypothesis ⊢
          rw [List.intercalate_cons_cons, List.intercalate_cons_cons, percentEncode_append,
            percentEncode_append, one, inductionHypothesis]

theorem hexDigit_ne_slash {value : Nat} (bound : value < 16) : hexDigit true value ≠ '/' := by
  have all : ∀ value : Fin 16, hexDigit true value ≠ '/' := by decide
  exact all ⟨value, bound⟩

theorem slash_not_mem_percentEncode {segment : List Char} (slashless : '/' ∉ segment) :
    '/' ∉ percentEncode safe segment := by
  intro member
  obtain ⟨c, among, inside⟩ := List.mem_flatMap.mp member
  rcases mem_percentChar inside with ⟨rfl, -⟩ | mark | ⟨value, bound, digit⟩
  · exact slashless among
  · exact absurd mark (by decide)
  · exact hexDigit_ne_slash bound digit.symm

/-- The segments of an encoded path are the encoded segments of the path. -/
theorem splitOn_percentEncode (slash : safe '/' = true) (path : List Char) :
    (percentEncode safe path).splitOn '/' = (path.splitOn '/').map (percentEncode safe) := by
  have slashless : ∀ segment ∈ (path.splitOn '/').map (percentEncode safe), '/' ∉ segment := by
    intro segment member
    obtain ⟨part, among, rfl⟩ := List.mem_map.mp member
    exact slash_not_mem_percentEncode fun inside => (mem_of_mem_splitOn among '/' inside).1 rfl
  have filled : (path.splitOn '/').map (percentEncode safe) ≠ [] := by
    rw [Ne, List.map_eq_nil_iff]
    exact List.splitOn_ne_nil '/' path
  conv => lhs; rw [← joinSegments_splitOn path, percentEncode_joinSegments slash]
  exact List.splitOn_intercalate '/' slashless filled

theorem resolveSegments_map {f : List Char → List Char} (injective : Function.Injective f)
    (empty : f [] = []) (dot : f ['.'] = ['.']) (dots : f ['.', '.'] = ['.', '.'])
    (done segments : List (List Char)) :
    resolveSegments (done.map f) (segments.map f) = (resolveSegments done segments).map f := by
  have keeps {part fixed : List Char} (fix : f fixed = fixed) : f part = fixed ↔ part = fixed :=
    ⟨fun same => injective (same.trans fix.symm), fun same => same ▸ fix⟩
  induction segments generalizing done with
  | nil => exact List.map_reverse.symm
  | cons segment segments inductionHypothesis =>
      simp only [List.map_cons, resolveSegments, keeps dot, keeps dots]
      split
      next => exact inductionHypothesis done
      next =>
        split
        next =>
          have root : done.map f = [[]] ↔ done = [[]] := by
            cases done with
            | nil => simp
            | cons first others => simp [keeps empty]
          simp only [root, ← List.map_drop, ← inductionHypothesis]
          congr 1
          split <;> rfl
        next => exact inductionHypothesis (segment :: done)

/-- **Encoding and resolving a path can change places.** -/
theorem resolvePath_percentEncode (slash : safe '/' = true) (dot : safe '.' = true)
    (noMark : safe '%' = false) (path : List Char) :
    resolvePath (percentEncode safe path) = percentEncode safe (resolvePath path) := by
  have single : ∀ c ∈ ['.'], safe c = true := List.forall_mem_singleton.mpr dot
  have double : ∀ c ∈ ['.', '.'], safe c = true := List.forall_mem_cons.mpr ⟨dot, single⟩
  have resolved := resolveSegments_map (percentEncode_injective noMark) rfl
    (percentEncode_of_safe single) (percentEncode_of_safe double) [] (path.splitOn '/')
  rw [List.map_nil] at resolved
  rw [resolvePath, resolvePath, splitOn_percentEncode slash, resolved,
    percentEncode_joinSegments slash]

end Encoding

end Typeahead.Web
