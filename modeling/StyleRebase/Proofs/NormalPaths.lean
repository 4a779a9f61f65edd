import StyleRebase.Rebase.Path
import StyleRebase.Proofs.LineColumns

/-! # Normal paths

`normalize` reads a path piece by piece between its slashes, folding each piece into a list of
segments with `pushSegment`, and writes the segments back with the path's root and trailing
slash. This module says what the fold produces, what the written path looks like, and how
`relativeTo` and `join` undo each other.

* **`IsName`**, **`Reduced`** — a segment that names a file or directory, and the normal form of
  a segment list: a run of `..` (only in a relative path), then names.
* **`pushSegment_reduced`**, **`foldl_reduced`** — each step keeps a list reduced, so the
  segments of every path are.
* **`foldl_after_reduced`** — reading pieces after a reduced list gives what reading them into
  the list first does: normalizing part of a path before the rest changes nothing.
* **`normalize_eq`**, **`normalize_of_absolute`** — what `normalize` writes, in terms of the
  segments.
* **`normalize_normal_form`** — the shape of a normalized path, and idempotence.
* **`relativeTo_inverted_by_join`** — a path made relative to a directory and joined back to
  it is the normalized path again. -/

namespace StyleRebase.Rebase.Path

/-! ## (1) Segments and the step that folds them -/

/-- **A name**: a segment that normalization keeps as it is and that a later `..` cancels —
neither empty nor `.` nor `..`, and free of slashes. -/
def IsName (seg : List Char) : Prop :=
  seg ≠ [] ∧ seg ≠ ['.'] ∧ seg ≠ ['.', '.'] ∧ '/' ∉ seg

instance : DecidablePred IsName := fun _ => inferInstanceAs (Decidable (_ ∧ _ ∧ _ ∧ _))

/-- **A reduced segment list**, the normal form `normalize` folds a path into: a run of `..`
and then names, with no `..` at all in an absolute path. -/
def Reduced (absolute : Bool) (segs : List (List Char)) : Prop :=
  ∃ up names, segs = List.replicate up ['.', '.'] ++ names ∧ (∀ n ∈ names, IsName n) ∧
    (absolute = true → up = 0)

/-- **Whether a piece between slashes is kept**: it is neither empty nor `.`. This is the
filter of `namedSegments`. -/
def isNamedPiece (piece : List Char) : Bool := !(piece.isEmpty || piece == ['.'])

/-- **The segments of a path**: its pieces between slashes folded by `pushSegment`, as
`normalize` folds them. -/
def segmentsOf (path : List Char) : List (List Char) :=
  (path.splitOn '/').foldl (pushSegment (path.head? == some '/')) []

variable {a : Bool} {segs : List (List Char)} {seg n : List Char}

theorem IsName.ne_dotdot (h : IsName n) : n ≠ ['.', '.'] := h.2.2.1

/-- A name is appended. -/
theorem pushSegment_name (h : IsName n) : pushSegment a segs n = segs ++ [n] := by
  obtain ⟨h1, h2, h3, -⟩ := h
  simp [pushSegment, h1, h2, h3]

/-- A piece that is not kept changes nothing. -/
theorem pushSegment_skip (h : isNamedPiece seg = false) : pushSegment a segs seg = segs := by
  simp only [isNamedPiece, Bool.not_eq_false'] at h
  simp [pushSegment, h]

/-- `..` cancels the name before it. -/
theorem pushSegment_dotdot_name (h : IsName n) :
    pushSegment a (segs ++ [n]) ['.', '.'] = segs := by
  simp [pushSegment, h.ne_dotdot]

/-- `..` with no name before it is kept in a relative path. -/
theorem pushSegment_dotdot_up (up : Nat) :
    pushSegment false (List.replicate up ['.', '.']) ['.', '.'] =
      List.replicate (up + 1) ['.', '.'] := by
  cases up <;> simp [pushSegment, List.getLast?_replicate, List.replicate_succ']

/-- **The three kinds of piece**: one that is skipped, `..`, and a name. -/
theorem piece_cases (seg : List Char) (h : '/' ∉ seg) :
    isNamedPiece seg = false ∨ seg = ['.', '.'] ∨ IsName seg := by
  by_cases hk : isNamedPiece seg = false
  · exact .inl hk
  by_cases hd : seg = ['.', '.']
  · exact .inr (.inl hd)
  · refine .inr (.inr ⟨?_, ?_, hd, h⟩) <;> (rintro rfl; simp [isNamedPiece] at hk)

/-- **No piece between slashes holds a slash.** -/
theorem slash_not_mem_piece {p piece : List Char} (h : piece ∈ p.splitOn '/') : '/' ∉ piece := by
  intro hmem
  rw [List.splitOn_eq_splitOnP] at h
  have := LineIndex.forall_mem_splitOnP (· == '/') p piece h '/' hmem
  simp at this

/-! ## (2) Reduced lists -/

theorem reduced_nil : Reduced a [] := ⟨0, [], rfl, by simp, fun _ => rfl⟩

/-- Every segment of a reduced list is kept, non-empty and free of slashes. -/
theorem Reduced.mem (h : Reduced a segs) {s : List Char} (hs : s ∈ segs) :
    s ≠ [] ∧ '/' ∉ s ∧ isNamedPiece s = true := by
  obtain ⟨up, names, rfl, hnames, -⟩ := h
  rcases List.mem_append.mp hs with hs | hs
  · obtain rfl := List.eq_of_mem_replicate hs
    simp [isNamedPiece]
  · obtain ⟨h1, h2, -, h4⟩ := hnames s hs
    exact ⟨h1, h4, by simp [isNamedPiece, h1, h2]⟩

/-- **One step keeps a list reduced**: a skipped piece changes nothing, `..` cancels a name or
extends the run, and a name is appended. -/
theorem pushSegment_reduced (h : Reduced a segs) (hseg : '/' ∉ seg) :
    Reduced a (pushSegment a segs seg) := by
  obtain ⟨up, names, rfl, hnames, habs⟩ := h
  rcases piece_cases seg hseg with hk | rfl | hn
  · rw [pushSegment_skip hk]
    exact ⟨up, names, rfl, hnames, habs⟩
  · rcases List.eq_nil_or_concat names with rfl | ⟨names', m, rfl⟩
    · -- nothing to cancel: an absolute path drops the `..`, a relative one keeps it
      rw [List.append_nil]
      cases a with
      | false => exact ⟨up + 1, [], by rw [pushSegment_dotdot_up]; simp, by simp, by simp⟩
      | true =>
        obtain rfl := habs rfl
        exact ⟨0, [], by simp [pushSegment], by simp, fun _ => rfl⟩
    · -- the `..` cancels the last name
      rw [List.concat_eq_append] at hnames ⊢
      rw [← List.append_assoc, pushSegment_dotdot_name (hnames m (by simp))]
      exact ⟨up, names', rfl, fun k hk => hnames k (by simp [hk]), habs⟩
  · rw [pushSegment_name hn, List.append_assoc]
    refine ⟨up, names ++ [seg], rfl, fun k hk => ?_, habs⟩
    rcases List.mem_append.mp hk with hk | hk
    · exact hnames k hk
    · rwa [List.mem_singleton.mp hk]

/-- **A whole fold keeps a list reduced.** -/
theorem foldl_reduced : ∀ {ps : List (List Char)} {init : List (List Char)},
    Reduced a init → (∀ p ∈ ps, '/' ∉ p) → Reduced a (ps.foldl (pushSegment a) init)
  | [], _, h, _ => h
  | p :: ps, _, h, hps => by
    rw [List.foldl_cons]
    exact foldl_reduced (pushSegment_reduced h (hps p List.mem_cons_self))
      fun q hq => hps q (List.mem_cons_of_mem p hq)

/-- **The segments of every path are reduced**, with no `..` left in an absolute one. -/
theorem reduced_segmentsOf (p : List Char) : Reduced (p.head? == some '/') (segmentsOf p) :=
  foldl_reduced reduced_nil fun _ h => slash_not_mem_piece h

/-- Names are appended one after another. -/
theorem foldl_names : ∀ {names : List (List Char)}, (∀ k ∈ names, IsName k) →
    ∀ init, names.foldl (pushSegment a) init = init ++ names
  | [], _, init => (List.append_nil init).symm
  | k :: names, h, init => by
    rw [List.foldl_cons, pushSegment_name (h k List.mem_cons_self),
      foldl_names (fun m hm => h m (List.mem_cons_of_mem k hm))]
    simp

/-- **A run of `..` after names** cancels as many of the last ones. -/
theorem foldl_dotdots_names : ∀ (k : Nat) {names : List (List Char)}, (∀ m ∈ names, IsName m) →
    k ≤ names.length →
    (List.replicate k ['.', '.']).foldl (pushSegment a) names = names.take (names.length - k)
  | 0, names, _, _ => by simp
  | k + 1, names, h, hk => by
    rcases List.eq_nil_or_concat names with rfl | ⟨names', m, rfl⟩
    · simp at hk
    · rw [List.concat_eq_append] at h hk ⊢
      rw [List.replicate_succ, List.foldl_cons, pushSegment_dotdot_name (h m (by simp)),
        foldl_dotdots_names k (fun x hx => h x (by simp [hx])) (by simp at hk; omega),
        List.take_append_of_le_length (by simp)]
      simp only [List.length_append, List.length_singleton]
      congr 1
      omega

/-- A run of `..` read in a relative path stays a run. -/
theorem foldl_dotdots_up : ∀ (k j : Nat),
    (List.replicate k ['.', '.']).foldl (pushSegment false) (List.replicate j ['.', '.']) =
      List.replicate (j + k) ['.', '.']
  | 0, j => rfl
  | k + 1, j => by
    rw [List.replicate_succ, List.foldl_cons, pushSegment_dotdot_up, foldl_dotdots_up k (j + 1)]
    congr 1
    omega

/-- **A reduced list folds to itself.** -/
theorem foldl_of_reduced (h : Reduced a segs) : segs.foldl (pushSegment a) [] = segs := by
  obtain ⟨up, names, rfl, hnames, habs⟩ := h
  rw [List.foldl_append, foldl_names hnames]
  congr 1
  -- the run of `..` folds to itself in a relative path, and an absolute one has none
  cases a with
  | false => simpa using foldl_dotdots_up up 0
  | true => rw [habs rfl]; rfl

/-- Only the kept pieces count. -/
theorem foldl_filter_named : ∀ (ps : List (List Char)) (init : List (List Char)),
    ps.foldl (pushSegment a) init = (ps.filter isNamedPiece).foldl (pushSegment a) init
  | [], _ => rfl
  | p :: ps, init => by
    by_cases hp : isNamedPiece p = true
    · rw [List.filter_cons_of_pos hp, List.foldl_cons, List.foldl_cons, foldl_filter_named ps]
    · rw [List.filter_cons_of_neg hp, List.foldl_cons,
        pushSegment_skip (Bool.eq_false_iff.mpr hp), foldl_filter_named ps]

/-- **Reading a piece after a reduced list**, in a path of either kind, is reading the list
once the piece has been folded into it as into a relative path. -/
theorem pushSegment_foldl {R : List (List Char)} (hR : Reduced false R) {y : List Char}
    (hy : '/' ∉ y) (B : List (List Char)) :
    pushSegment a (R.foldl (pushSegment a) B) y =
      (pushSegment false R y).foldl (pushSegment a) B := by
  rcases piece_cases y hy with hk | rfl | hn
  · rw [pushSegment_skip hk, pushSegment_skip hk]
  · obtain ⟨up, names, rfl, hnames, -⟩ := hR
    rcases List.eq_nil_or_concat names with rfl | ⟨names', m, rfl⟩
    · -- nothing to cancel: the `..` is read in both
      rw [List.append_nil, pushSegment_dotdot_up, List.replicate_succ', List.foldl_append]
      rfl
    · -- the `..` cancels the same last name on both sides
      rw [List.concat_eq_append] at hnames ⊢
      have hm : IsName m := hnames m (by simp)
      rw [← List.append_assoc, pushSegment_dotdot_name hm, List.foldl_append, List.foldl_cons,
        List.foldl_nil, pushSegment_name hm, pushSegment_dotdot_name hm]
  · rw [pushSegment_name hn, pushSegment_name hn, List.foldl_append, List.foldl_cons,
      List.foldl_nil, pushSegment_name hn]

/-- **Normalizing part of a path first changes nothing**: pieces read after a reduced list into
a relative path, and the result read after `B`, is what reading the list and then the pieces
after `B` gives. The induction runs over the pieces, with `pushSegment_foldl` as its step. -/
theorem foldl_after_reduced : ∀ {ys R : List (List Char)}, Reduced false R →
    (∀ y ∈ ys, '/' ∉ y) → ∀ B : List (List Char),
    (ys.foldl (pushSegment false) R).foldl (pushSegment a) B =
      ys.foldl (pushSegment a) (R.foldl (pushSegment a) B)
  | [], _, _, _, _ => rfl
  | y :: ys, R, hR, hys, B => by
    have hy := hys y List.mem_cons_self
    rw [List.foldl_cons, List.foldl_cons, pushSegment_foldl hR hy,
      foldl_after_reduced (pushSegment_reduced hR hy)
        (fun z hz => hys z (List.mem_cons_of_mem y hz))]

/-- **Normalizing part of a path first changes nothing**, from the start of a relative path. -/
theorem foldl_normalized {ys : List (List Char)} (hys : ∀ y ∈ ys, '/' ∉ y) (B : List (List Char)) :
    ys.foldl (pushSegment a) B = (ys.foldl (pushSegment false) []).foldl (pushSegment a) B :=
  (foldl_after_reduced reduced_nil hys B).symm

/-! ## (3) The written path -/

/-- **Written segments split back into the segments**, when there are some. -/
theorem splitOn_joinSegments (h : Reduced a segs) (hne : segs ≠ []) :
    (joinSegments segs).splitOn '/' = segs :=
  List.splitOn_intercalate '/' (fun _ hs => (h.mem hs).2.1) hne

/-- **The kept pieces of written segments are the segments.** -/
theorem filter_splitOn_joinSegments (h : Reduced a segs) :
    ((joinSegments segs).splitOn '/').filter isNamedPiece = segs := by
  rcases eq_or_ne segs [] with rfl | hne
  · rfl
  · rw [splitOn_joinSegments h hne]
    exact List.filter_eq_self.mpr fun s hs => (h.mem hs).2.2

/-- A list that starts with a slash splits off an empty first piece. -/
theorem nil_mem_splitOn_of_head {l : List Char} (h : l.head? = some '/') : [] ∈ l.splitOn '/' := by
  obtain ⟨rest, rfl⟩ := List.head?_eq_some_iff.mp h
  rw [show '/' :: rest = [] ++ '/' :: rest from rfl, List.splitOn_append_cons_self]
  simp [List.splitOn_nil]

/-- A list that ends with a slash splits off an empty last piece. -/
theorem nil_mem_splitOn_of_getLast {l : List Char} (h : l.getLast? = some '/') :
    [] ∈ l.splitOn '/' := by
  obtain ⟨init, rfl⟩ := List.getLast?_eq_some_iff.mp h
  rw [List.splitOn_append_cons_self]
  simp [List.splitOn_nil]

/-- **Written segments are empty only when there are none.** -/
theorem joinSegments_ne_nil (h : Reduced a segs) (hne : segs ≠ []) : joinSegments segs ≠ [] := by
  intro hnil
  -- the empty text splits into one empty piece, and no segment is empty
  have hsplit := splitOn_joinSegments h hne
  rw [hnil, List.splitOn_nil] at hsplit
  exact (h.mem (show ([] : List Char) ∈ segs by rw [← hsplit]; simp)).1 rfl

/-- **Written segments neither start nor end with a slash**: a slash at either end would split
off an empty piece, and no segment is empty. -/
theorem joinSegments_ends (h : Reduced a segs) :
    (joinSegments segs).head? ≠ some '/' ∧ (joinSegments segs).getLast? ≠ some '/' := by
  rcases eq_or_ne segs [] with rfl | hne
  · simp [joinSegments]
  have hsplit := splitOn_joinSegments h hne
  have hempty : ([] : List Char) ∉ segs := fun hmem => (h.mem hmem).1 rfl
  exact ⟨fun hh => hempty (hsplit ▸ nil_mem_splitOn_of_head hh),
    fun hl => hempty (hsplit ▸ nil_mem_splitOn_of_getLast hl)⟩

/-- **Written segments end in a character other than a slash**, when there are some. -/
theorem getLast?_joinSegments (h : Reduced a segs) (hne : segs ≠ []) :
    ∃ x, (joinSegments segs).getLast? = some x ∧ x ≠ '/' := by
  have hx := List.getLast?_eq_some_getLast (joinSegments_ne_nil h hne)
  exact ⟨_, hx, fun hs => (joinSegments_ends h).2 (hs ▸ hx)⟩

/-- **What `normalize` writes**: `.` for a relative path with no segments; otherwise the root of
an absolute path, the segments joined by slashes, and a trailing slash when the path ends in one
and there are segments before it. -/
theorem normalize_eq (p : List Char) :
    normalize p =
      if p.head? ≠ some '/' ∧ segmentsOf p = [] then ['.']
      else (if p.head? = some '/' then ['/'] else []) ++ joinSegments (segmentsOf p) ++
        (if p.getLast? = some '/' ∧ segmentsOf p ≠ [] then ['/'] else []) := by
  have hR := reduced_segmentsOf p
  unfold normalize
  dsimp only
  rw [show (p.splitOn '/').foldl (pushSegment (p.head? == some '/')) [] = segmentsOf p from rfl]
  rcases eq_or_ne (segmentsOf p) [] with hnil | hne
  · by_cases habs : p.head? = some '/' <;> simp [hnil, habs, joinSegments]
  · -- the written segments end in a character other than a slash
    obtain ⟨x, hx, hxs⟩ := getLast?_joinSegments hR hne
    by_cases habs : p.head? = some '/' <;>
      simp [hne, habs, joinSegments_ne_nil hR hne, hx, hxs, List.getLast?_cons] <;> split <;> simp

/-- **What `normalize` writes for an absolute path**: the root, the segments, and a trailing
slash when the path ends in one and has segments. -/
theorem normalize_of_absolute {p : List Char} (hp : p.head? = some '/') :
    normalize p = '/' :: joinSegments (segmentsOf p) ++
      (if p.getLast? = some '/' ∧ segmentsOf p ≠ [] then ['/'] else []) := by
  rw [normalize_eq, if_neg (by simp [hp]), if_pos hp]
  rfl

/-- **A normalized path is never empty**: `.` stands for nothing. -/
theorem normalize_ne_nil (p : List Char) : normalize p ≠ [] := by
  rw [normalize_eq]
  split
  · simp
  · rename_i hdot
    by_cases habs : p.head? = some '/'
    · simp [habs]
    · have hne : segmentsOf p ≠ [] := fun hnil => hdot ⟨habs, hnil⟩
      simp [joinSegments_ne_nil (reduced_segmentsOf p) hne]

/-- **A normalized path starts with a slash exactly when the path does.** -/
theorem head?_normalize (p : List Char) : (normalize p).head? = some '/' ↔ p.head? = some '/' := by
  have hR := reduced_segmentsOf p
  rw [normalize_eq]
  by_cases habs : p.head? = some '/'
  · simp [habs]
  · -- a relative path is written from its first segment, or is `.`
    have hfirst := (joinSegments_ends hR).1
    rcases eq_or_ne (segmentsOf p) [] with hnil | hne
    · simp [habs, hnil]
    · simp only [habs, ne_eq, not_false_eq_true, hne, and_false, if_false, List.nil_append,
        iff_false]
      rw [List.head?_append_of_ne_nil _ (joinSegments_ne_nil hR hne)]
      exact hfirst

/-- **With segments left, a normalized path ends with a slash exactly when the path does.** -/
theorem getLast?_normalize_iff {p : List Char} (hne : segmentsOf p ≠ []) :
    (normalize p).getLast? = some '/' ↔ p.getLast? = some '/' := by
  obtain ⟨x, hx, hxs⟩ := getLast?_joinSegments (reduced_segmentsOf p) hne
  rw [normalize_eq]
  by_cases hlast : p.getLast? = some '/' <;> simp [hne, hlast, List.getLast?_append, hx, hxs]

/-- **A normalized path ends with a slash only when the path does, or when it is the root.** -/
theorem getLast?_normalize (p : List Char) (h : (normalize p).getLast? = some '/') :
    p.getLast? = some '/' ∨ normalize p = ['/'] := by
  rcases eq_or_ne (segmentsOf p) [] with hnil | hne
  · -- no segments: the path is written as `.` or as the root
    right
    rw [normalize_eq] at h ⊢
    by_cases habs : p.head? = some '/' <;> simp_all [joinSegments]
  · exact .inl ((getLast?_normalize_iff hne).mp h)

/-- A leading slash adds no kept piece. -/
theorem filter_splitOn_slash_cons (x : List Char) :
    (('/' :: x).splitOn '/').filter isNamedPiece = (x.splitOn '/').filter isNamedPiece := by
  rw [show '/' :: x = [] ++ '/' :: x from rfl, List.splitOn_append_cons_self]
  simp [List.splitOn_nil, isNamedPiece]

/-- A trailing slash adds no kept piece. -/
theorem filter_splitOn_append_slash (x : List Char) :
    ((x ++ ['/']).splitOn '/').filter isNamedPiece = (x.splitOn '/').filter isNamedPiece := by
  rw [List.splitOn_append_cons_self]
  simp [List.splitOn_nil, isNamedPiece]

/-- **The kept pieces of a normalized path are its segments.** -/
theorem filter_splitOn_normalize (p : List Char) :
    ((normalize p).splitOn '/').filter isNamedPiece = segmentsOf p := by
  have hR := reduced_segmentsOf p
  rw [normalize_eq]
  split
  · rename_i hdot
    rw [hdot.2]
    rfl
  · have hroot : (((if p.head? = some '/' then ['/'] else []) ++
        joinSegments (segmentsOf p)).splitOn '/').filter isNamedPiece = segmentsOf p := by
      split
      · exact (filter_splitOn_slash_cons _).trans (filter_splitOn_joinSegments hR)
      · exact filter_splitOn_joinSegments hR
    by_cases htrail : p.getLast? = some '/' ∧ segmentsOf p ≠ []
    · rw [if_pos htrail, filter_splitOn_append_slash, hroot]
    · rw [if_neg htrail, List.append_nil, hroot]

/-- **The named segments of a path are the segments it normalizes to.** -/
theorem namedSegments_eq_segmentsOf (p : List Char) : namedSegments p = segmentsOf p :=
  filter_splitOn_normalize p

/-- **Normalizing keeps the segments.** -/
theorem segmentsOf_normalize (p : List Char) : segmentsOf (normalize p) = segmentsOf p := by
  have habs : ((normalize p).head? == some '/') = (p.head? == some '/') := by
    rw [Bool.eq_iff_iff, beq_iff_eq, beq_iff_eq]
    exact head?_normalize p
  rw [segmentsOf, habs, foldl_filter_named, filter_splitOn_normalize,
    foldl_of_reduced (reduced_segmentsOf p)]

/-- **Normalizing twice is normalizing once.** -/
theorem normalize_normalize (p : List Char) : normalize (normalize p) = normalize p := by
  simp only [normalize_eq (normalize p), segmentsOf_normalize, ne_eq, head?_normalize]
  rcases eq_or_ne (segmentsOf p) [] with hnil | hne
  · -- no segments: `.` or the root, written again as it is
    rw [normalize_eq p]
    by_cases habs : p.head? = some '/' <;> simp [hnil, habs, joinSegments]
  · simp only [getLast?_normalize_iff hne]
    exact (normalize_eq p).symm

/-- **`normalize` writes a normal form, and a second pass changes nothing.** A normalized path
is `.`, or else the root of an absolute path followed by reduced segments joined by slashes
(names after a run of `..`, and no `..` in an absolute path), with one trailing slash possible
after a segment; it starts with a slash exactly when the path does, and ends with one only when
the path does or it is the root. -/
theorem normalize_normal_form (p : List Char) :
    (normalize p = ['.'] ∨
      ∃ segs, Reduced (p.head? == some '/') segs ∧ (p.head? = some '/' ∨ segs ≠ []) ∧
        (normalize p = (if p.head? = some '/' then ['/'] else []) ++ joinSegments segs ∨
          segs ≠ [] ∧
            normalize p = (if p.head? = some '/' then ['/'] else []) ++ joinSegments segs ++
              ['/'])) ∧
    ((normalize p).head? = some '/' ↔ p.head? = some '/') ∧
    ((normalize p).getLast? = some '/' → p.getLast? = some '/' ∨ normalize p = ['/']) ∧
    normalize (normalize p) = normalize p := by
  refine ⟨?_, head?_normalize p, getLast?_normalize p, normalize_normalize p⟩
  rw [normalize_eq]
  by_cases hdot : p.head? ≠ some '/' ∧ segmentsOf p = []
  · exact .inl (if_pos hdot)
  · right
    refine ⟨segmentsOf p, reduced_segmentsOf p, ?_, ?_⟩
    · by_cases habs : p.head? = some '/'
      · exact .inl habs
      · exact .inr fun hnil => hdot ⟨habs, hnil⟩
    · rw [if_neg hdot]
      by_cases htrail : p.getLast? = some '/' ∧ segmentsOf p ≠ []
      · exact .inr ⟨htrail.2, by rw [if_pos htrail]⟩
      · exact .inl (by rw [if_neg htrail, List.append_nil])

/-- An absolute path is not empty. -/
theorem ne_nil_of_absolute {p : List Char} (hp : p.head? = some '/') : p ≠ [] := by
  rintro rfl
  cases hp

/-- The segments of an absolute path are its pieces read as an absolute path. -/
theorem segmentsOf_of_absolute {p : List Char} (hp : p.head? = some '/') :
    segmentsOf p = (p.splitOn '/').foldl (pushSegment true) [] := by
  rw [segmentsOf, show (p.head? == some '/') = true by simp [hp]]

/-- **The segments of a path read against a directory**: the path's pieces folded after the
directory's segments, in the directory's kind of path. -/
theorem segmentsOf_append_slash {b : List Char} (hb : b ≠ []) (x : List Char) :
    segmentsOf (b ++ '/' :: x) =
      (x.splitOn '/').foldl (pushSegment (b.head? == some '/')) (segmentsOf b) := by
  rw [segmentsOf, segmentsOf, List.head?_append_of_ne_nil _ hb, List.splitOn_append_cons_self,
    List.foldl_append]

/-- The segments of a path read against an absolute directory. -/
theorem segmentsOf_append_slash_of_absolute {b : List Char} (hb : b.head? = some '/')
    (x : List Char) :
    segmentsOf (b ++ '/' :: x) = (x.splitOn '/').foldl (pushSegment true) (segmentsOf b) := by
  rw [segmentsOf_append_slash (ne_nil_of_absolute hb), show (b.head? == some '/') = true by
    simp [hb]]

/-- A path read against a directory that is not empty is normalized after a slash. -/
theorem join_of_ne_nil {base : List Char} (h : base ≠ []) (path : List Char) :
    join base path = normalize (base ++ '/' :: path) := by
  rw [join, if_neg (by simpa using h)]

/-- **Where a path read against a directory ends**: in a slash exactly when the path is empty
or ends in one. -/
theorem getLast?_append_slash_cons (b x : List Char) :
    (b ++ '/' :: x).getLast? = some '/' ↔ x = [] ∨ x.getLast? = some '/' := by
  rcases List.eq_nil_or_concat x with rfl | ⟨y, c, rfl⟩
  · simp
  · rw [List.concat_eq_append, ← List.cons_append, ← List.append_assoc, List.getLast?_concat]
    simp

/-! ## (4) Relative paths -/

/-- The common prefix is no longer than either list. -/
theorem commonPrefixLength_le : ∀ (xs ys : List (List Char)),
    commonPrefixLength xs ys ≤ xs.length ∧ commonPrefixLength xs ys ≤ ys.length
  | x :: xs, y :: ys => by
    have := commonPrefixLength_le xs ys
    rw [commonPrefixLength]
    split <;> simp; omega
  | [], _ => by simp [commonPrefixLength]
  | _ :: _, [] => by simp [commonPrefixLength]

/-- **Both lists start with their common prefix.** -/
theorem take_commonPrefixLength : ∀ (xs ys : List (List Char)),
    xs.take (commonPrefixLength xs ys) = ys.take (commonPrefixLength xs ys)
  | x :: xs, y :: ys => by
    rw [commonPrefixLength]
    split
    · rename_i h
      rw [beq_iff_eq] at h
      rw [h, List.take_succ_cons, List.take_succ_cons, take_commonPrefixLength xs ys]
    · rfl
  | [], _ => by simp [commonPrefixLength]
  | _ :: _, [] => by simp [commonPrefixLength]

/-- **The segments of the way from a directory to a path**, given both by their segments: `..`
for each segment of the directory past their common prefix, then the path's segments past it. -/
def relativeSegments (ps bs : List (List Char)) : List (List Char) :=
  List.replicate (bs.length - commonPrefixLength ps bs) ['.', '.'] ++ ps.drop (commonPrefixLength ps bs)

/-- **How a relative path is written**: its segments joined by slashes, or `.` for none. -/
def writeRelative (Q : List (List Char)) : List Char :=
  if Q.isEmpty then ['.'] else joinSegments Q

/-- `relativeTo` writes the way from the directory's segments to the path's. -/
theorem relativeTo_eq (p b : List Char) :
    relativeTo p b = writeRelative (relativeSegments (segmentsOf p) (segmentsOf b)) := by
  simp only [relativeTo, namedSegments_eq_segmentsOf, relativeSegments, writeRelative]
  rfl

/-- In an absolute path every segment is a name. -/
theorem names_of_absolute {p : List Char} (hp : p.head? = some '/') :
    ∀ k ∈ segmentsOf p, IsName k := by
  obtain ⟨up, names, hsegs, hnames, habs⟩ := reduced_segmentsOf p
  rw [hsegs, habs (by simp [hp])]
  simpa using hnames

/-- The way down to names is reduced. -/
theorem reduced_relativeSegments {ps : List (List Char)} (hps : ∀ k ∈ ps, IsName k)
    (bs : List (List Char)) : Reduced false (relativeSegments ps bs) :=
  ⟨_, _, rfl, fun k hk => hps k (List.mem_of_mem_drop hk), by simp⟩

/-- **Climbing from a directory** by as many `..` as it has segments past the common prefix
leaves the common prefix. -/
theorem foldl_climb {ps bs : List (List Char)} (hbs : ∀ k ∈ bs, IsName k) :
    (List.replicate (bs.length - commonPrefixLength ps bs) ['.', '.']).foldl (pushSegment a) bs =
      ps.take (commonPrefixLength ps bs) := by
  have hc := (commonPrefixLength_le ps bs).2
  rw [foldl_dotdots_names _ hbs (Nat.sub_le _ _), take_commonPrefixLength,
    Nat.sub_sub_self hc]

/-- **The way from a directory to a path leads to the path**, when both are given by names. -/
theorem foldl_relativeSegments {ps bs : List (List Char)} (hps : ∀ k ∈ ps, IsName k)
    (hbs : ∀ k ∈ bs, IsName k) : (relativeSegments ps bs).foldl (pushSegment a) bs = ps := by
  rw [relativeSegments, List.foldl_append, foldl_climb hbs,
    foldl_names (fun k hk => hps k (List.mem_of_mem_drop hk)), List.take_append_drop]

/-- **A written relative path is not empty, and neither starts nor ends with a slash.** -/
theorem writeRelative_ends {Q : List (List Char)} (h : Reduced false Q) :
    writeRelative Q ≠ [] ∧ (writeRelative Q).head? ≠ some '/' ∧
      (writeRelative Q).getLast? ≠ some '/' := by
  rw [writeRelative]
  split
  · simp
  · rename_i hne
    exact ⟨joinSegments_ne_nil h (by simpa using hne), joinSegments_ends h⟩

/-- Reading a written relative path gives its segments back. -/
theorem foldl_splitOn_writeRelative {Q : List (List Char)} (h : Reduced false Q) :
    ((writeRelative Q).splitOn '/').foldl (pushSegment false) [] = Q := by
  rw [foldl_filter_named, writeRelative]
  split
  · rename_i hnil
    rw [List.isEmpty_iff.mp hnil]
    rfl
  · rw [filter_splitOn_joinSegments h, foldl_of_reduced h]

/-- **A written relative path has its segments back.** -/
theorem segmentsOf_writeRelative {Q : List (List Char)} (h : Reduced false Q) :
    segmentsOf (writeRelative Q) = Q := by
  have hflag : ((writeRelative Q).head? == some '/') = false := by
    simpa using (writeRelative_ends h).2.1
  rw [segmentsOf, hflag]
  exact foldl_splitOn_writeRelative h

/-- **`relativeTo` is inverted by `join`.** For absolute paths `p` and `b`, joining `b` with
the path from `b` to `p` gives `p` normalized, less a trailing slash (the root kept); and that
relative path is `.` or written from reduced segments. -/
theorem relativeTo_inverted_by_join {p b : List Char} (hp : p.head? = some '/')
    (hb : b.head? = some '/') :
    join b (relativeTo p b) =
        (if (normalize p).getLast? = some '/' ∧ normalize p ≠ ['/'] then (normalize p).dropLast
          else normalize p) ∧
      (relativeTo p b = ['.'] ∨
        ∃ segs, segs ≠ [] ∧ Reduced false segs ∧ relativeTo p b = joinSegments segs) := by
  have hps := names_of_absolute hp
  have hR := reduced_relativeSegments hps (segmentsOf b)
  have hb0 := ne_nil_of_absolute hb
  constructor
  · -- read against `b`, the relative path climbs to the common prefix and descends to `p`
    have hsegs : segmentsOf (b ++ '/' :: relativeTo p b) = segmentsOf p := by
      rw [segmentsOf_append_slash_of_absolute hb,
        foldl_normalized (fun _ h => slash_not_mem_piece h), relativeTo_eq,
        foldl_splitOn_writeRelative hR, foldl_relativeSegments hps (names_of_absolute hb)]
    have hlast : ¬(b ++ '/' :: relativeTo p b).getLast? = some '/' := by
      rw [getLast?_append_slash_cons, relativeTo_eq]
      rintro (h | h)
      · exact (writeRelative_ends hR).1 h
      · exact (writeRelative_ends hR).2.2 h
    have hhead : (b ++ '/' :: relativeTo p b).head? = some '/' := by
      rw [List.head?_append_of_ne_nil _ hb0, hb]
    have hjoin : join b (relativeTo p b) = '/' :: joinSegments (segmentsOf p) := by
      rw [join_of_ne_nil hb0, normalize_of_absolute hhead, hsegs, if_neg (fun h => hlast h.1),
        List.append_nil]
    have hnorm := normalize_of_absolute hp
    rw [hjoin]
    rcases eq_or_ne (segmentsOf p) [] with hnil | hne
    · -- nothing but the root
      have hroot : normalize p = ['/'] := by simp [hnorm, hnil, joinSegments]
      rw [hroot, hnil]
      simp [joinSegments]
    · by_cases htrail : p.getLast? = some '/'
      · have hne' : normalize p ≠ ['/'] := by
          rw [hnorm]
          simp [joinSegments_ne_nil (reduced_segmentsOf p) hne]
        rw [if_pos ⟨(getLast?_normalize_iff hne).mpr htrail, hne'⟩, hnorm,
          if_pos ⟨htrail, hne⟩, List.dropLast_concat]
      · rw [if_neg (fun h => htrail ((getLast?_normalize_iff hne).mp h.1)), hnorm,
          if_neg (fun h => htrail h.1), List.append_nil]
  · rw [relativeTo_eq, writeRelative]
    split
    · exact .inl rfl
    · rename_i hne
      exact .inr ⟨_, by simpa using hne, hR, rfl⟩

/-- A stylesheet under `/lib` seen from `/work/app`: two steps up, then down to it. -/
theorem relativeTo_lib_from_app :
    "/lib/b.scss/".toList.head? = some '/' ∧ "/work/app".toList.head? = some '/' ∧
      (join "/work/app".toList (relativeTo "/lib/b.scss/".toList "/work/app".toList) =
          (if (normalize "/lib/b.scss/".toList).getLast? = some '/' ∧
              normalize "/lib/b.scss/".toList ≠ ['/'] then
            (normalize "/lib/b.scss/".toList).dropLast
          else normalize "/lib/b.scss/".toList) ∧
        (relativeTo "/lib/b.scss/".toList "/work/app".toList = ['.'] ∨
          ∃ segs, segs ≠ [] ∧ Reduced false segs ∧
            relativeTo "/lib/b.scss/".toList "/work/app".toList = joinSegments segs)) :=
  ⟨rfl, rfl, relativeTo_inverted_by_join rfl rfl⟩

example : relativeTo "/lib/b.scss/".toList "/work/app".toList = "../../lib/b.scss".toList := by
  decide +kernel

end StyleRebase.Rebase.Path
