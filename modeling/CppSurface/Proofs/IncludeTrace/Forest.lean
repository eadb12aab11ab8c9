import CppSurface.IncludeTrace
import CppSurface.Proofs.Text.Lines
import CppSurface.Proofs.Text.Trim

/-!
# A trace determines its forest

What the compiler enters while it reads a file is a forest: the headers that the file includes, each
with the headers that it includes in turn.  The trace lists the forest in pre-order, and of the
shape of the forest nothing is left in it but the depth of each header.  Between its lines stand
those of warnings and errors, which have no depth.

The reader keeps a stack of open files.  It never learns that a header is done: a header that is
left stays on the stack until a line of a smaller or equal depth comes.  So after a forest has been
read the stack is not what it was before, and this is what the proof has to deal with.  What is
left of it are the files below the depth of the forest (`edges_headers`): above them there may be
any number of headers that are done, and these are cut off by the next line of that depth
(`edges_cons_of_open`).

Everything else is a matter of single lines.  A line of the trace is read back
(`readLine?_headerLine`), and a line of another shape is passed over (`readLine?_eq_none`), whether
or not a carriage return is taken off its end.
-/

namespace CppSurface

open CppSurface.Text

/-! ## 1. Forests of headers -/

/-- Headers in the order in which they are entered: none, or a header with those entered from it,
and the ones after it. -/
inductive IncludeForest where
  | nil
  | cons (path : Path) (entered : IncludeForest) (rest : IncludeForest)
  deriving Repr, DecidableEq

namespace IncludeForest

/-- The headers in pre-order, each with its depth; those at the top have depth `depth`. -/
def headers (depth : Nat) : IncludeForest → List (Nat × Path)
  | nil => []
  | cons path entered rest =>
    (depth, path) :: (entered.headers (depth + 1) ++ rest.headers depth)

/-- **The edges from parent to child, in pre-order**, when those at the top are entered from
`includer`.  A header is named by its canonical path, `includer` as it is given. -/
def edges (canonical : Path → Path) (includer : Path) : IncludeForest → List Inclusion
  | nil => []
  | cons path entered rest =>
    ⟨includer, canonical path⟩ ::
      (entered.edges canonical (canonical path) ++ rest.edges canonical includer)

/-- The paths of all headers. -/
def paths : IncludeForest → List Path
  | nil => []
  | cons path entered rest => path :: (entered.paths ++ rest.paths)

theorem map_snd_headers (forest : IncludeForest) (depth : Nat) :
    (forest.headers depth).map (·.2) = forest.paths := by
  induction forest generalizing depth with
  | nil => rfl
  | cons path entered rest ihEntered ihRest =>
    simp only [headers, paths, List.map_cons, List.map_append, ihEntered, ihRest]

/-- No header has depth zero. -/
theorem depth_pos {forest : IncludeForest} {depth : Nat} (hpos : 0 < depth) :
    ∀ h ∈ forest.headers depth, 0 < h.1 := by
  induction forest generalizing depth with
  | nil => simp [headers]
  | cons path entered rest ihEntered ihRest =>
    intro h hh
    rcases List.mem_cons.mp hh with rfl | hh
    · exact hpos
    · rcases List.mem_append.mp hh with hh | hh
      · exact ihEntered (Nat.succ_pos depth) h hh
      · exact ihRest hpos h hh

end IncludeForest

namespace IncludeTrace

variable {canonical : Path → Path} {line text : List Char} {depth : Nat} {path : Path}

/-! ## 2. The lines of a trace -/

/-- The line for a header: a dot for each level, a space and the path. -/
def headerLine (header : Nat × Path) : List Char :=
  List.replicate header.1 '.' ++ ' ' :: header.2.text.toList

/-- Dots, a space and a text. -/
def HasShape (line : List Char) : Prop :=
  ∃ dots c text, line = List.replicate (dots + 1) '.' ++ ' ' :: c :: text

/-- A path that can stand on a line of a trace: not empty, without line feeds, and without white
space at its ends. -/
structure Traceable (path : Path) : Prop where
  nonempty : path.text.toList ≠ []
  one_line : '\n' ∉ path.text.toList
  starts : ∀ c ∈ path.text.toList.head?, isBlank c = false
  ends : ∀ c ∈ path.text.toList.getLast?, isBlank c = false

theorem traceable_iff : Traceable path ↔ path.text.toList ≠ [] ∧ '\n' ∉ path.text.toList ∧
    path.text.toList.head?.any isBlank = false ∧ path.text.toList.getLast?.any isBlank = false := by
  have hany : ∀ o : Option Char, o.any isBlank = false ↔ ∀ c ∈ o, isBlank c = false := by
    intro o
    cases o <;> simp
  rw [hany, hany]
  exact ⟨fun h => ⟨h.1, h.2, h.3, h.4⟩, fun h => ⟨h.1, h.2.1, h.2.2.1, h.2.2.2⟩⟩

instance : DecidablePred Traceable := fun _ => decidable_of_iff' _ traceable_iff

/-- **Lines of another shape stand between the given ones.** -/
inductive Interspersed : List (List Char) → List (List Char) → Prop
  | nil : Interspersed [] []
  | keep {given all : List (List Char)} (line : List Char) :
      Interspersed given all → Interspersed (line :: given) (line :: all)
  | other {given all : List (List Char)} (line : List Char) :
      ¬ HasShape line → '\n' ∉ line → Interspersed given all → Interspersed given (line :: all)

/-! ## 3. Reading one line -/

theorem trim_of_traceable (h : Traceable path) : trim path.text.toList = path.text.toList :=
  trim_eq_self h.starts h.ends

/-- Of dots, a space and a text, the number of dots and the trimmed text are read. -/
theorem readLine?_append (dots : Nat) (c : Char) (text : List Char) :
    readLine? (List.replicate (dots + 1) '.' ++ ' ' :: c :: text) =
      some (dots + 1, ⟨String.ofList (trim (c :: text))⟩) := by
  have hdots : ∀ x ∈ List.replicate (dots + 1) '.', (x == '.') = true := by
    intro x hx
    rw [List.eq_of_mem_replicate hx]
    rfl
  unfold readLine?
  rw [List.takeWhile_append_of_pos hdots, List.takeWhile_cons_of_neg (by decide),
    List.dropWhile_append_of_pos hdots, List.dropWhile_cons_of_neg (by decide), List.append_nil,
    List.replicate_succ]
  simp only [List.length_replicate]

/-- **A line of the trace is read back.** -/
theorem readLine?_headerLine (hdepth : 0 < depth) (h : Traceable path) :
    readLine? (headerLine (depth, path)) = some (depth, path) := by
  obtain ⟨dots, rfl⟩ := Nat.exists_eq_add_one.mpr hdepth
  obtain ⟨c, cs, hp⟩ := List.exists_cons_of_ne_nil h.nonempty
  rw [headerLine, hp, readLine?_append, ← hp, trim_of_traceable h, String.ofList_toList]

/-- **The lines that are read are those of dots, a space and a text.** -/
theorem isSome_readLine? : (readLine? line).isSome = true ↔ HasShape line := by
  constructor
  · unfold readLine?
    split
    · rename_i d more c rest htake hdrop
      intro _
      refine ⟨more.length, c, rest, ?_⟩
      have hdots : line.takeWhile (· == '.') = List.replicate (more.length + 1) '.' := by
        refine List.eq_replicate_iff.mpr ⟨by rw [htake]; rfl, fun x hx => ?_⟩
        simpa using List.all_eq_true.mp List.all_takeWhile x hx
      calc line
          = line.takeWhile (· == '.') ++ line.dropWhile (· == '.') :=
            (List.takeWhile_append_dropWhile).symm
        _ = List.replicate (more.length + 1) '.' ++ ' ' :: c :: rest := by rw [hdots, hdrop]
    · exact fun h => absurd h (by simp)
  · rintro ⟨dots, c, text, rfl⟩
    rw [readLine?_append, Option.isSome_some]

instance : DecidablePred HasShape := fun _ => decidable_of_iff _ isSome_readLine?

/-- **A line of another shape is passed over.** -/
theorem readLine?_eq_none (h : ¬ HasShape line) : readLine? line = none := by
  rwa [← isSome_readLine?, Option.not_isSome_iff_eq_none] at h

/-- A line does not get the shape of a trace by losing a carriage return. -/
theorem HasShape.of_dropReturn (h : HasShape (dropReturn line)) : HasShape line := by
  rcases eq_or_append_return line with hline | hline
  · rwa [hline] at h
  · obtain ⟨dots, c, text, htext⟩ := h
    exact ⟨dots, c, text ++ ['\r'], by rw [hline, htext]; simp⟩

/-- The line for a header does not end with a carriage return, which is white space. -/
theorem dropReturn_headerLine (h : Traceable path) : dropReturn (headerLine (depth, path)) =
    headerLine (depth, path) := by
  refine dropReturn_of_getLast?_ne fun hlast => ?_
  have hpath : path.text.toList.getLast? = some '\r' := by
    obtain ⟨c, cs, hp⟩ := List.exists_cons_of_ne_nil h.nonempty
    simpa [headerLine, hp, List.getLast?_append] using hlast
  exact absurd (h.ends '\r' hpath) (by decide)

theorem notMem_headerLine (h : Traceable path) : '\n' ∉ headerLine (depth, path) := by
  simp [headerLine, h.one_line]

/-! ## 4. Reading a whole text -/

/-- **The headers are read back from a text in which other lines stand between theirs.** -/
theorem filterMap_readLine? {headers : List (Nat × Path)} {all : List (List Char)}
    (hdepth : ∀ h ∈ headers, 0 < h.1) (hpaths : ∀ h ∈ headers, Traceable h.2)
    (hall : Interspersed (headers.map headerLine) all) (hprint : Prints all text) :
    (lines text).filterMap readLine? = headers := by
  generalize hgiven : headers.map headerLine = given at hall
  have hlines : (∀ l ∈ all, '\n' ∉ l) ∧ (∀ l ∈ all, readLine? (dropReturn l) = readLine? l) ∧
      all.filterMap readLine? = headers := by
    clear hprint
    induction hall generalizing headers with
    | nil =>
      rw [List.map_eq_nil_iff.mp hgiven]
      simp
    | keep l _ ih =>
      obtain ⟨⟨d, p⟩, rest, rfl, rfl, hrest⟩ := List.map_eq_cons_iff.mp hgiven
      obtain ⟨hd, hdrest⟩ := List.forall_mem_cons.mp hdepth
      obtain ⟨hp, hprest⟩ := List.forall_mem_cons.mp hpaths
      obtain ⟨hone, hreturn, hread⟩ := ih hdrest hprest hrest
      refine ⟨List.forall_mem_cons.mpr ⟨notMem_headerLine hp, hone⟩,
        List.forall_mem_cons.mpr ⟨by rw [dropReturn_headerLine hp], hreturn⟩, ?_⟩
      rw [List.filterMap_cons, readLine?_headerLine hd hp, hread]
    | other l hshape hline _ ih =>
      obtain ⟨hone, hreturn, hread⟩ := ih hdepth hpaths hgiven
      have hnone := readLine?_eq_none hshape
      have hnone' := readLine?_eq_none (mt HasShape.of_dropReturn hshape)
      refine ⟨List.forall_mem_cons.mpr ⟨hline, hone⟩,
        List.forall_mem_cons.mpr ⟨by rw [hnone, hnone'], hreturn⟩, ?_⟩
      rw [List.filterMap_cons, hnone, hread]
  rw [filterMap_lines hprint hlines.1 hlines.2.1, hlines.2.2]

/-! ## 5. The stack of open files -/

/-- **A header is entered from the open file of the depth above it**, whatever lies on top. -/
theorem edges_cons_of_open (done : List Path) (includer : Path) (below : List Path)
    (path : Path) (rest : List (Nat × Path)) :
    edges canonical (done ++ includer :: below) ((below.length + 1, path) :: rest) =
      ⟨includer, canonical path⟩ ::
        edges canonical (canonical path :: includer :: below) rest := by
  have hlength : (done ++ includer :: below).length - (below.length + 1) = done.length := by
    simp
  have hle : below.length + 1 ≤ (done ++ includer :: below).length := by simp
  rw [edges, hlength, List.drop_left]
  exact if_pos hle

/-- **Reading a forest gives its edges, and leaves the files below its depth open.**  The induction
is on the forest; the headers that were done before it, and those done in it, stay on the stack. -/
theorem edges_headers (canonical : Path → Path) (forest : IncludeForest) (done : List Path)
    (includer : Path) (below : List Path) (rest : List (Nat × Path)) :
    ∃ done', edges canonical (done ++ includer :: below)
        (forest.headers (below.length + 1) ++ rest) =
      forest.edges canonical includer ++ edges canonical (done' ++ includer :: below) rest := by
  induction forest generalizing done includer below rest with
  | nil => exact ⟨done, rfl⟩
  | cons path entered after ihEntered ihAfter =>
    -- the headers entered from `path` are read with `path` on top of the open files
    obtain ⟨inner, hinner⟩ := ihEntered [] (canonical path) (includer :: below)
      (after.headers (below.length + 1) ++ rest)
    obtain ⟨outer, houter⟩ := ihAfter (inner ++ [canonical path]) includer below rest
    refine ⟨outer, ?_⟩
    rw [List.nil_append, List.length_cons] at hinner
    rw [List.append_assoc, List.singleton_append] at houter
    simp only [IncludeForest.headers, IncludeForest.edges, List.cons_append, List.append_assoc]
    rw [edges_cons_of_open, hinner, houter]

/-! ## 6. The trace of a forest -/

/-- **The trace of a forest is read back as its edges.**  The text holds the lines of the forest in
pre-order, with lines of other shapes anywhere between them. -/
theorem read_forest (files : FileTree) (main : Path) {forest : IncludeForest}
    {all : List (List Char)} {output : List Char} (hpaths : ∀ p ∈ forest.paths, Traceable p)
    (hall : Interspersed ((forest.headers 1).map headerLine) all) (hprint : Prints all output) :
    read files main output = forest.edges files.canonical main := by
  have hdepth : ∀ h ∈ forest.headers 1, 0 < h.1 := IncludeForest.depth_pos Nat.one_pos
  have htraceable : ∀ h ∈ forest.headers 1, Traceable h.2 := by
    intro h hh
    refine hpaths h.2 ?_
    rw [← forest.map_snd_headers 1]
    exact List.mem_map_of_mem hh
  obtain ⟨done, hedges⟩ := edges_headers files.canonical forest [] main [] []
  rw [read, filterMap_readLine? hdepth htraceable hall hprint]
  simpa [edges] using hedges

/-! ## 7. Non-vacuity: a trace with depth, repetition and noise

The main file enters `a`, which enters `b`, which enters `c`; then it enters `a` once more, under
another spelling.  There is no `c`, so it keeps its spelling.  A warning stands between the lines,
and so does a line of dots; some lines end with a carriage return. -/

/-- The files of the example. -/
def sampleFiles : FileTree :=
  ⟨[(["s".toList], .directory), (["s".toList, "a".toList], .file []),
    (["s".toList, "b".toList], .file [])], ["s".toList]⟩

/-- The headers of the example. -/
def sampleForest : IncludeForest :=
  .cons ⟨"a"⟩ (.cons ⟨"b"⟩ (.cons ⟨"c"⟩ .nil .nil) .nil) (.cons ⟨"./a"⟩ .nil .nil)

/-- **The theorem at a trace**: what it says of this text, and what the edges are. -/
theorem read_sampleForest :
    read sampleFiles ⟨"./m"⟩ ". a\r\n.. b\nm:1:1: warning: x\n... c\n...\n. ./a".toList =
        sampleForest.edges sampleFiles.canonical ⟨"./m"⟩ ∧
      sampleForest.edges sampleFiles.canonical ⟨"./m"⟩ =
        [⟨⟨"./m"⟩, ⟨"/s/a"⟩⟩, ⟨⟨"/s/a"⟩, ⟨"/s/b"⟩⟩, ⟨⟨"/s/b"⟩, ⟨"c"⟩⟩, ⟨⟨"./m"⟩, ⟨"/s/a"⟩⟩] := by
  refine ⟨read_forest _ _ (by decide) (.keep _ (.keep _ (.other "m:1:1: warning: x".toList
    (by decide) (by decide) (.keep _ (.other "...".toList (by decide) (by decide)
      (.keep _ .nil)))))) ?_, by decide⟩
  exact .returned (.ended (.ended (.ended (.ended (.unended (by decide))))))

end IncludeTrace

end CppSurface
