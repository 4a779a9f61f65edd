import StyleRebase.Proofs.NormalPaths

/-! # Sources made relative to a base directory

With a base directory given, an absolute source of a source map is shown relative to it, and
references are resolved against that relative source. Read back from the base directory, such a
resolution lands where resolving against the absolute source lands, up to a trailing slash —
provided the source names a file (its last segment is a name), its directory is absolute, and it
does not lie at or above the base directory. `dirname` is lexical: it cuts the last segment of
what it is given, so a relative source `..` or `.` has directory `.`, and so does an absolute
source whose last segment is `.` or `..`.

* **`baseName`** — the last name of a path, the part `dirname` cuts off.
* **`trimSlashes_split`**, **`dirname_of_split`** — a path is its directory part, a slash and its
  last name, and `dirname` gives the directory part.
* **`foldl_splitOn_dirname`** — the directory of a path has the path's segments less the last.
* **`dirname_joinSegments`** — the directory of a relative path written from segments.
* **`normalizeSource_climb`**, **`join_join_climb`** — a source below the base directory is
  made relative as a climb to its directory, and reading a path against that climb from the
  base directory reads it against the directory.
* **`relative_source_resolves_alike`** — the main statement.
* **`relative_source_counterexamples`** — where the correspondence fails without those
  provisions. -/

namespace StyleRebase.Rebase.Path

variable {a : Bool}

/-! ## (1) The last name of a path and its directory -/

/-- **The last name of a path**: what follows its last slash, trailing slashes ignored — the
part `dirname` cuts off. -/
def baseName (path : List Char) : List Char :=
  ((trimSlashes path).reverse.takeWhile (· != '/')).reverse

/-- A last name holds no slash. -/
theorem slash_not_mem_baseName (path : List Char) : '/' ∉ baseName path := by
  intro h
  have hall : ((trimSlashes path).reverse.takeWhile (· != '/')).all (· != '/') = true :=
    List.all_takeWhile
  have := List.all_eq_true.mp hall '/' (List.mem_reverse.mp h)
  simp at this

/-- **A path is its trimmed part followed by slashes.** -/
theorem trimSlashes_append_slashes (cs : List Char) :
    ∃ sl, cs = trimSlashes cs ++ sl ∧ ∀ c ∈ sl, c = '/' := by
  refine ⟨(cs.reverse.takeWhile (· == '/')).reverse, ?_, fun c hc => ?_⟩
  · calc cs = (cs.reverse.takeWhile (· == '/') ++ cs.reverse.dropWhile (· == '/')).reverse := by
          rw [List.takeWhile_append_dropWhile, List.reverse_reverse]
      _ = trimSlashes cs ++ (cs.reverse.takeWhile (· == '/')).reverse := by
          rw [List.reverse_append]
          rfl
  · have hall : (cs.reverse.takeWhile (· == '/')).all (· == '/') = true := List.all_takeWhile
    simpa using List.all_eq_true.mp hall c (List.mem_reverse.mp hc)

/-- Trimming leaves a path that does not end in a slash as it is. -/
theorem trimSlashes_of_getLast {cs : List Char} (h : cs.getLast? ≠ some '/') :
    trimSlashes cs = cs := by
  rw [trimSlashes, trimEndBy]
  rcases hr : cs.reverse with _ | ⟨c, r⟩
  · rw [List.reverse_eq_nil_iff.mp hr]
    rfl
  · have hc : c ≠ '/' := by
      rintro rfl
      apply h
      rw [← List.head?_reverse, hr]
      rfl
    rw [List.dropWhile_cons_of_neg (by simpa using hc), ← hr, List.reverse_reverse]

/-- **Trailing slashes add no kept piece.** -/
theorem foldl_splitOn_append_slashes : ∀ {sl : List Char}, (∀ c ∈ sl, c = '/') →
    ∀ (t : List Char) (init : List (List Char)),
    ((t ++ sl).splitOn '/').foldl (pushSegment a) init = (t.splitOn '/').foldl (pushSegment a) init
  | [], _, t, init => by rw [List.append_nil]
  | c :: sl, h, t, init => by
    obtain rfl := h c List.mem_cons_self
    rw [show t ++ '/' :: sl = (t ++ ['/']) ++ sl by simp,
      foldl_splitOn_append_slashes (fun d hd => h d (List.mem_cons_of_mem _ hd)),
      foldl_filter_named, filter_splitOn_append_slash, ← foldl_filter_named]

/-- **Trimming trailing slashes keeps the segments.** -/
theorem foldl_splitOn_trimSlashes (cs : List Char) (init : List (List Char)) :
    ((trimSlashes cs).splitOn '/').foldl (pushSegment a) init =
      (cs.splitOn '/').foldl (pushSegment a) init := by
  obtain ⟨sl, hcs, hsl⟩ := trimSlashes_append_slashes cs
  conv_rhs => rw [hcs]
  exact (foldl_splitOn_append_slashes hsl _ _).symm

/-- **A trimmed path is its last name alone, or its directory part, a slash and its last
name**: cut at the last slash. -/
theorem trimSlashes_split (path : List Char) :
    trimSlashes path = baseName path ∨ ∃ d, trimSlashes path = d ++ '/' :: baseName path := by
  have hsplit := @List.takeWhile_append_dropWhile _ (· != '/') (trimSlashes path).reverse
  rcases hdrop : (trimSlashes path).reverse.dropWhile (· != '/') with _ | ⟨c, r⟩
  · -- no slash at all
    left
    rw [hdrop, List.append_nil] at hsplit
    rw [baseName, hsplit, List.reverse_reverse]
  · -- the last slash, read from the end
    right
    have hc : c = '/' := by
      have := List.head?_dropWhile_not (· != '/') (trimSlashes path).reverse
      rw [hdrop] at this
      simpa using this
    subst hc
    rw [hdrop] at hsplit
    refine ⟨r.reverse, ?_⟩
    calc trimSlashes path = (trimSlashes path).reverse.reverse := (List.reverse_reverse _).symm
      _ = ((trimSlashes path).reverse.takeWhile (· != '/') ++ '/' :: r).reverse := by
          rw [hsplit]
      _ = r.reverse ++ '/' :: baseName path := by simp [baseName]

/-- **The directory of a bare name** is `.`. -/
theorem dirname_of_bare {path n : List Char} (h : trimSlashes path = n) (hn0 : n ≠ [])
    (hn : '/' ∉ n) : dirname path = ['.'] := by
  have hname : n.reverse.takeWhile (· != '/') = n.reverse := by
    have := @List.takeWhile_append_of_pos _ (· != '/') n.reverse [] fun c hc => by
      have : c ≠ '/' := fun hc' => hn (hc' ▸ List.mem_reverse.mp hc)
      simpa using this
    simpa using this
  unfold dirname
  dsimp only
  rw [h, hname]
  simp [hn0]

/-- **The directory of a path cut at its last slash** is the part before it: the root when that
part is empty, and otherwise that part less its trailing slashes. -/
theorem dirname_of_split {path d n : List Char} (h : trimSlashes path = d ++ '/' :: n)
    (hn : '/' ∉ n) : dirname path = if d = [] then ['/'] else trimSlashes d := by
  have hname : (d ++ '/' :: n).reverse.takeWhile (· != '/') = n.reverse := by
    rw [List.reverse_append, List.reverse_cons, List.append_assoc,
      List.takeWhile_append_of_pos fun c hc => by
        have : c ≠ '/' := fun hc' => hn (hc' ▸ List.mem_reverse.mp hc)
        simpa using this]
    simp
  have hdir : (d ++ '/' :: n).take ((d ++ '/' :: n).length - n.reverse.length - 1) = d :=
    List.take_left' (by simp; omega)
  unfold dirname
  dsimp only
  rw [h, hname, hdir]
  simp only [List.isEmpty_iff, List.length_reverse, List.length_append, List.length_cons]
  rw [if_neg (by simp), if_neg (by simp; omega)]

/-- **The directory of a path has the path's segments less the last**, when its last segment
is a name: cutting the name off the text cuts it off the segments. -/
theorem foldl_splitOn_dirname {path : List Char} (hname : IsName (baseName path)) (a : Bool) :
    ((dirname path).splitOn '/').foldl (pushSegment a) [] =
      ((path.splitOn '/').foldl (pushSegment a) []).dropLast := by
  have hnoslash := slash_not_mem_baseName path
  rw [← foldl_splitOn_trimSlashes path []]
  rcases trimSlashes_split path with hbare | ⟨d, hd⟩
  · -- a bare name: its directory is `.`, with no segments
    rw [dirname_of_bare hbare hname.1 hnoslash, hbare, List.splitOn_eq_singleton hnoslash,
      List.foldl_cons, List.foldl_nil, pushSegment_name hname]
    rfl
  · rw [dirname_of_split hd hnoslash, hd, List.splitOn_append_cons_self,
      List.splitOn_eq_singleton hnoslash, List.foldl_append, List.foldl_cons, List.foldl_nil,
      pushSegment_name hname, List.dropLast_concat]
    split
    · -- a name at the root: the directory is `/`, with no segments
      rename_i hd0
      subst hd0
      rfl
    · exact foldl_splitOn_trimSlashes d []

/-! ## (2) The directory of a relative path written from segments -/

/-- A name appended to a reduced list keeps it reduced. -/
theorem Reduced.append_name {R : List (List Char)} {n : List Char} (hR : Reduced a R)
    (hn : IsName n) : Reduced a (R ++ [n]) := by
  obtain ⟨up, names, rfl, hnames, habs⟩ := hR
  refine ⟨up, names ++ [n], by simp, fun k hk => ?_, habs⟩
  rcases List.mem_append.mp hk with hk | hk
  · exact hnames k hk
  · rwa [List.mem_singleton.mp hk]

/-- Segments written with one more at the end. -/
theorem joinSegments_append_singleton (n : List Char) : ∀ {R : List (List Char)}, R ≠ [] →
    joinSegments (R ++ [n]) = joinSegments R ++ '/' :: n
  | [], h => absurd rfl h
  | [x], _ => by simp [joinSegments, List.intercalate_cons_cons]
  | x :: y :: ys, _ => by
    have ih := joinSegments_append_singleton n (List.cons_ne_nil y ys)
    simp only [joinSegments, List.cons_append, List.intercalate_cons_cons] at ih ⊢
    rw [ih]
    simp

/-- **The directory of a relative path written from segments** is written from all but the
last: its last segment is the name `dirname` cuts off. -/
theorem dirname_joinSegments {R : List (List Char)} {n : List Char} (hR : Reduced false R)
    (hn : IsName n) : dirname (joinSegments (R ++ [n])) = writeRelative R := by
  have hlast := (joinSegments_ends (hR.append_name hn)).2
  have htrim := trimSlashes_of_getLast hlast
  rw [writeRelative]
  rcases eq_or_ne R [] with rfl | hne
  · -- a single name
    exact dirname_of_bare (by simpa [joinSegments] using htrim) hn.1 hn.2.2.2
  · rw [joinSegments_append_singleton n hne] at htrim ⊢
    rw [dirname_of_split htrim hn.2.2.2, if_neg (joinSegments_ne_nil hR hne),
      trimSlashes_of_getLast (joinSegments_ends hR).2, if_neg (by simpa using hne)]

/-! ## (3) Reading back from the base directory -/

/-- **An absolute source is made relative to the base directory**, read with forward slashes;
it is no `file` URL. -/
theorem normalizeSource_absolute {s : List Char} (hs : s.head? = some '/') (b : List Char) :
    normalizeSource s (some b) = relativeTo s (forwardSlashes b) := by
  obtain ⟨rest, rfl⟩ := List.head?_eq_some_iff.mp hs
  simp [normalizeSource]

/-- **A path read against a relative directory, and the result against an absolute one**: its
segments are the path's pieces read after the relative directory's segments, read after the
absolute directory's. -/
theorem segmentsOf_join_join {b D : List Char} (hb : b.head? = some '/') (hD : D ≠ [])
    (hDrel : D.head? ≠ some '/') (x : List Char) :
    segmentsOf (b ++ '/' :: join D x) =
      (x.splitOn '/').foldl (pushSegment true)
        ((segmentsOf D).foldl (pushSegment true) (segmentsOf b)) := by
  have hflagD : (D.head? == some '/') = false := by simpa using hDrel
  have hRD : Reduced false (segmentsOf D) := hflagD ▸ reduced_segmentsOf D
  -- the inner join is normalized again by the outer one, which changes nothing
  rw [segmentsOf_append_slash_of_absolute hb, join_of_ne_nil hD, foldl_filter_named,
    filter_splitOn_normalize, segmentsOf_append_slash hD, hflagD,
    foldl_after_reduced hRD (fun _ h => slash_not_mem_piece h)]

/-- **Two absolute paths with the same segments are written alike**, but for a trailing slash
that only the second one's ending can add. -/
theorem normalize_eq_or_slash {p q : List Char} (hp : p.head? = some '/')
    (hq : q.head? = some '/') (hsegs : segmentsOf p = segmentsOf q)
    (htrail : p.getLast? = some '/' → q.getLast? = some '/') :
    normalize p = normalize q ∨ normalize p ++ ['/'] = normalize q := by
  -- both are written from the root and the same segments; only the trailing slash can differ
  rw [normalize_of_absolute hp, normalize_of_absolute hq, hsegs]
  by_cases hq' : q.getLast? = some '/' ∧ segmentsOf q ≠ []
  · by_cases hp' : p.getLast? = some '/'
    · exact .inl (by rw [if_pos ⟨hp', hq'.2⟩, if_pos hq'])
    · exact .inr (by rw [if_neg (fun h => hp' h.1), if_pos hq', List.append_nil])
  · exact .inl (by rw [if_neg (fun h => hq' ⟨htrail h.1, h.2⟩), if_neg hq'])

/-- **Reading a path against a climb from an absolute directory** is reading it against the
directory the climb reaches, up to a trailing slash that only the direct reading can add: the
relative directory, written from a reduced climb, never ends in a slash of its own. -/
theorem join_join_climb {b d : List Char} {Q : List (List Char)} (hb : b.head? = some '/')
    (hd : d.head? = some '/') (hQ : Reduced false Q)
    (hclimb : Q.foldl (pushSegment true) (segmentsOf b) = segmentsOf d) (x : List Char) :
    join b (join (writeRelative Q) x) = join d x ∨
      join b (join (writeRelative Q) x) ++ ['/'] = join d x := by
  obtain ⟨hD0, hDhead, -⟩ := writeRelative_ends hQ
  have hb0 := ne_nil_of_absolute hb
  have hd0 := ne_nil_of_absolute hd
  have hinner := join_of_ne_nil hD0 x
  rw [join_of_ne_nil hb0, join_of_ne_nil hd0]
  apply normalize_eq_or_slash
  · rw [List.head?_append_of_ne_nil _ hb0, hb]
  · rw [List.head?_append_of_ne_nil _ hd0, hd]
  · rw [segmentsOf_join_join hb hD0 hDhead, segmentsOf_writeRelative hQ, hclimb,
      segmentsOf_append_slash_of_absolute hd]
  · -- a trailing slash on the left comes from `x`: the relative directory never adds one
    rw [getLast?_append_slash_cons, getLast?_append_slash_cons, hinner]
    rintro (h | h)
    · exact absurd h (normalize_ne_nil _)
    · rcases getLast?_normalize _ h with h' | h'
      · exact (getLast?_append_slash_cons _ _).mp h'
      · have hhead := (head?_normalize _).mp (by rw [h']; rfl)
        rw [List.head?_append_of_ne_nil _ hD0] at hhead
        exact absurd hhead hDhead

/-- **A source below the base directory, made relative to it**, is a climb `Q` from the base
directory to the source's directory `S'`, followed by the source's last segment `n`. -/
theorem normalizeSource_climb {s b : List Char} (hs : s.head? = some '/')
    (hb : (forwardSlashes b).head? = some '/')
    (hbelow : ¬(segmentsOf s).IsPrefix (segmentsOf (forwardSlashes b))) :
    ∃ Q S' n, segmentsOf s = S' ++ [n] ∧ IsName n ∧ Reduced false Q ∧
      normalizeSource s (some b) = joinSegments (Q ++ [n]) ∧
      Q.foldl (pushSegment true) (segmentsOf (forwardSlashes b)) = S' := by
  have hS := names_of_absolute hs
  -- `c` segments are common to the source and the base directory, fewer than the source has
  obtain ⟨c, hcdef⟩ : ∃ c, commonPrefixLength (segmentsOf s) (segmentsOf (forwardSlashes b)) = c :=
    ⟨_, rfl⟩
  have hc : c < (segmentsOf s).length := by
    have hle := (commonPrefixLength_le (segmentsOf s) (segmentsOf (forwardSlashes b))).1
    rw [hcdef] at hle
    refine Nat.lt_of_le_of_ne hle fun heq => hbelow ?_
    have htake := take_commonPrefixLength (segmentsOf s) (segmentsOf (forwardSlashes b))
    rw [hcdef, heq, List.take_length] at htake
    rw [htake]
    exact List.take_prefix _ _
  -- the source's segments: its directory's `S'`, then its name `n`
  obtain ⟨S', n, hSn⟩ : ∃ S' n, segmentsOf s = S' ++ [n] := by
    rcases List.eq_nil_or_concat (segmentsOf s) with h | ⟨S', n, h⟩
    · rw [h] at hc
      exact absurd hc (Nat.not_lt_zero c)
    · exact ⟨S', n, by rw [h, List.concat_eq_append]⟩
  have hS' : ∀ k ∈ S', IsName k := fun k hk => hS k (by simp [hSn, hk])
  have hcS' : c ≤ S'.length := by
    rw [hSn, List.length_append, List.length_singleton] at hc
    omega
  -- `Q` climbs to the common prefix and descends to the directory
  refine ⟨List.replicate ((segmentsOf (forwardSlashes b)).length - c) ['.', '.'] ++ S'.drop c,
    S', n, hSn, hS n (by simp [hSn]),
    ⟨_, _, rfl, fun k hk => hS' k (List.mem_of_mem_drop hk), by simp⟩, ?_, ?_⟩
  · rw [normalizeSource_absolute hs, relativeTo_eq, writeRelative, relativeSegments, hcdef, hSn,
      List.drop_append_of_le_length hcS', ← List.append_assoc, if_neg (by simp)]
  · rw [List.foldl_append, ← hcdef, foldl_climb (names_of_absolute hb), hcdef,
      foldl_names (fun k hk => hS' k (List.mem_of_mem_drop hk)), hSn,
      List.take_append_of_le_length hcS', List.take_append_drop]

/-- A reference is resolved by reading its path against the source's directory and keeping its
query or fragment. -/
theorem resolve_eq (source raw : List Char) :
    resolve source raw = join (dirname source) (splitSuffix raw).1 ++ (splitSuffix raw).2 := rfl

/-- **Resolving against a source made relative to the base directory, read back from it**, is
resolving against the absolute source, up to a trailing slash. This holds for an absolute source
whose last segment is a name and whose directory is absolute, and that does not lie at or above
the base directory (read with forward slashes, as `normalizeSource` reads it). For every path
`x` read against the two directories, and so for every reference, whose query or fragment is
carried over as it is. -/
theorem relative_source_resolves_alike {s b : List Char} (hs : s.head? = some '/')
    (hname : IsName (baseName s)) (hdir : (dirname s).head? = some '/')
    (hb : (forwardSlashes b).head? = some '/')
    (hbelow : ¬(namedSegments s).IsPrefix (namedSegments (forwardSlashes b))) :
    (∀ x, join (forwardSlashes b) (join (dirname (normalizeSource s (some b))) x) =
          join (dirname s) x ∨
        join (forwardSlashes b) (join (dirname (normalizeSource s (some b))) x) ++ ['/'] =
          join (dirname s) x) ∧
    ∀ raw, ∃ path, resolve (normalizeSource s (some b)) raw = path ++ (splitSuffix raw).2 ∧
      (join (forwardSlashes b) path ++ (splitSuffix raw).2 = resolve s raw ∨
        join (forwardSlashes b) path ++ '/' :: (splitSuffix raw).2 = resolve s raw) := by
  rw [namedSegments_eq_segmentsOf, namedSegments_eq_segmentsOf] at hbelow
  obtain ⟨Q, S', n, hSn, hn, hQ, hrel, hclimb⟩ := normalizeSource_climb hs hb hbelow
  have hD : dirname (normalizeSource s (some b)) = writeRelative Q := by
    rw [hrel, dirname_joinSegments hQ hn]
  -- the source's own directory has the segments the climb reaches
  have hdirsegs : segmentsOf (dirname s) = S' := by
    rw [segmentsOf_of_absolute hdir, foldl_splitOn_dirname hname, ← segmentsOf_of_absolute hs,
      hSn, List.dropLast_concat]
  have hmain : ∀ x, join (forwardSlashes b) (join (dirname (normalizeSource s (some b))) x) =
        join (dirname s) x ∨
      join (forwardSlashes b) (join (dirname (normalizeSource s (some b))) x) ++ ['/'] =
        join (dirname s) x := by
    intro x
    rw [hD]
    exact join_join_climb hb hdir hQ (hclimb.trans hdirsegs.symm) x
  -- a reference's path is read as above, and its query or fragment is kept on both sides
  refine ⟨hmain, fun raw => ⟨join (dirname (normalizeSource s (some b))) (splitSuffix raw).1,
    resolve_eq _ _, ?_⟩⟩
  rw [resolve_eq]
  rcases hmain (splitSuffix raw).1 with h | h
  · exact .inl (by rw [h])
  · exact .inr (by rw [← h, List.append_assoc, List.singleton_append])

/-- A stylesheet source under `/work/src` seen from `/work`. -/
theorem relative_source_in_src_from_work :
    "/work/src/a.scss".toList.head? = some '/' ∧ IsName (baseName "/work/src/a.scss".toList) ∧
      (dirname "/work/src/a.scss".toList).head? = some '/' ∧
      (forwardSlashes "/work".toList).head? = some '/' ∧
      ¬(namedSegments "/work/src/a.scss".toList).IsPrefix
        (namedSegments (forwardSlashes "/work".toList)) ∧
      ((∀ x, join (forwardSlashes "/work".toList)
            (join (dirname (normalizeSource "/work/src/a.scss".toList (some "/work".toList))) x) =
            join (dirname "/work/src/a.scss".toList) x ∨
          join (forwardSlashes "/work".toList)
              (join (dirname (normalizeSource "/work/src/a.scss".toList (some "/work".toList))) x) ++
            ['/'] = join (dirname "/work/src/a.scss".toList) x) ∧
        ∀ raw, ∃ path,
          resolve (normalizeSource "/work/src/a.scss".toList (some "/work".toList)) raw =
            path ++ (splitSuffix raw).2 ∧
          (join (forwardSlashes "/work".toList) path ++ (splitSuffix raw).2 =
              resolve "/work/src/a.scss".toList raw ∨
            join (forwardSlashes "/work".toList) path ++ '/' :: (splitSuffix raw).2 =
              resolve "/work/src/a.scss".toList raw)) := by
  have hname : IsName (baseName "/work/src/a.scss".toList) := by decide +kernel
  have hdir : (dirname "/work/src/a.scss".toList).head? = some '/' := by decide +kernel
  have hb : (forwardSlashes "/work".toList).head? = some '/' := by decide +kernel
  have hbelow : ¬(namedSegments "/work/src/a.scss".toList).IsPrefix
      (namedSegments (forwardSlashes "/work".toList)) := by decide +kernel
  exact ⟨rfl, hname, hdir, hb, hbelow, relative_source_resolves_alike rfl hname hdir hb hbelow⟩

/-! ## (4) Without the provisions -/

/-- **The correspondence as it reads without provisions**: a path read against the directory of
the source made relative to `b`, then against `b`, and the path read against the source's own
directory, equal up to a trailing slash on either side. -/
def ResolvesAlike (s b x : List Char) : Prop :=
  join b (join (dirname (normalizeSource s (some b))) x) = join (dirname s) x ∨
    join b (join (dirname (normalizeSource s (some b))) x) ++ ['/'] = join (dirname s) x ∨
    join b (join (dirname (normalizeSource s (some b))) x) = join (dirname s) x ++ ['/']

instance (s b x : List Char) : Decidable (ResolvesAlike s b x) :=
  inferInstanceAs (Decidable (_ ∨ _ ∨ _))

/-- **Where the correspondence fails**, each time for an absolute source, an absolute base
directory and the relative path `img.png`: a source that is the parent of the base directory
(made relative it is `..`, whose lexical directory is `.`); a source whose last segment is `.`
(its own directory keeps that segment as a name); a name after two leading slashes (its
directory is empty, so the source resolves as a relative path); and a base directory with a
backslash, which `normalizeSource` reads as a slash. -/
theorem relative_source_counterexamples :
    ¬ResolvesAlike "/work".toList "/work/app".toList "img.png".toList ∧
      ¬ResolvesAlike "/work/src/.".toList "/work".toList "img.png".toList ∧
      ¬ResolvesAlike "//a.scss".toList "/work".toList "img.png".toList ∧
      ¬ResolvesAlike "/work/app/a.scss".toList "/work\\app".toList "img.png".toList := by
  decide +kernel

end StyleRebase.Rebase.Path
