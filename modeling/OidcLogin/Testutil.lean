import Mathlib.Logic.Function.Basic
import OidcLogin.Output
import OidcLogin.Text

/-! The test utilities' `dedent` and `bashCmd`.

`dedent` reads the script with a `bufio.Scanner` splitting lines (`ScanLines` over the
default buffer), drops the blank lines, and takes the white space that begins the first
non-blank line off every non-blank line; at a line that does not begin with it, it warns
on stderr and returns the script as it was. `dedentLoop` is that loop. `dedented` says
what it is for, and `dedentLoop_start` is the refinement: the loop computes `dedented` of
the scanned lines. From it: a dedented script dedents to itself, and a line of 64 KiB or
more ends the scan, so what follows it is lost without a warning.
-/

set_option autoImplicit false

namespace OidcLogin.Testutil

/-! ### The line scanner -/

def maxScanTokenSize : Nat := 64 * 1024

def dropCR (line : List Char) : List Char :=
  if line.getLast? = some '\r' then line.dropLast else line

def segmentsFrom (line : List Char) : List Char → List (List Char)
  | [] => if line = [] then [] else [line]
  | c :: text => if c = '\n' then line :: segmentsFrom [] text else segmentsFrom (line ++ [c]) text

/-- The lines `s.Scan()` yields. A segment that does not fit the buffer with its newline
(`maxScanTokenSize` bytes or more) makes `Scan` return false with `ErrTooLong`, so the
lines stop before it. -/
def scanLines (text : List Char) : List (List Char) :=
  ((segmentsFrom [] text).takeWhile fun segment => byteSize segment < maxScanTokenSize).map dropCR

def unlines (lines : List (List Char)) : List Char :=
  (lines.map (· ++ ['\n'])).flatten

@[simp] theorem unlines_nil : unlines [] = [] := rfl

@[simp] theorem unlines_cons (line : List Char) (lines : List (List Char)) :
    unlines (line :: lines) = line ++ '\n' :: unlines lines := by
  simp [unlines]

theorem segmentsFrom_append (line piece rest : List Char) (noNewline : '\n' ∉ piece) :
    segmentsFrom line (piece ++ rest) = segmentsFrom (line ++ piece) rest := by
  induction piece generalizing line with
  | nil => simp
  | cons c piece ih =>
    have other : c ≠ '\n' := fun same => noNewline (same ▸ List.mem_cons_self c piece)
    simp only [List.cons_append, segmentsFrom, other, if_false]
    exact (ih _ fun mem => noNewline (List.mem_cons_of_mem c mem)).trans (by rw [List.append_assoc, List.singleton_append])

theorem segmentsFrom_unlines (lines : List (List Char)) (noNewline : ∀ line ∈ lines, '\n' ∉ line)
    (rest : List Char) : segmentsFrom [] (unlines lines ++ rest) = lines ++ segmentsFrom [] rest := by
  induction lines with
  | nil => rfl
  | cons line lines ih =>
    rw [unlines_cons, List.append_assoc, segmentsFrom_append _ _ _ (noNewline line (List.mem_cons_self _ _))]
    simp [segmentsFrom, ih fun l mem => noNewline l (List.mem_cons_of_mem _ mem)]

theorem segmentsFrom_head (line : List Char) (begun : line ≠ []) (text : List Char) :
    ∃ more rest, segmentsFrom line text = (line ++ more) :: rest := by
  induction text generalizing line with
  | nil => exact ⟨[], [], by simp [segmentsFrom, begun]⟩
  | cons c text ih =>
    by_cases newline : c = '\n'
    · exact ⟨[], segmentsFrom [] text, by simp [segmentsFrom, newline]⟩
    · obtain ⟨more, rest, cut⟩ := ih (line ++ [c]) (by simp)
      exact ⟨c :: more, rest, by simp [segmentsFrom, newline, cut]⟩

theorem not_mem_segmentsFrom (line text : List Char) (noNewline : '\n' ∉ line) :
    ∀ segment ∈ segmentsFrom line text, '\n' ∉ segment := by
  induction text generalizing line with
  | nil => by_cases empty : line = [] <;> simp [segmentsFrom, empty, noNewline]
  | cons c text ih =>
    by_cases newline : c = '\n'
    · simp only [segmentsFrom, newline, if_true, List.mem_cons, forall_eq_or_imp]
      exact ⟨noNewline, ih [] (List.not_mem_nil _)⟩
    · simp only [segmentsFrom, newline, if_false]
      exact ih _ (by simp [noNewline, Ne.symm newline])

theorem byteSize_le_of_startsWith {line whole : List Char} (pre : line <+: whole) : byteSize line ≤ byteSize whole := by
  obtain ⟨rest, rfl⟩ := pre
  simp

theorem scanLines_fit (text : List Char) :
    ∀ line ∈ scanLines text, '\n' ∉ line ∧ byteSize line < maxScanTokenSize := by
  intro line mem
  obtain ⟨segment, kept, rfl⟩ := List.mem_map.mp mem
  have noNewline := not_mem_segmentsFrom [] text (List.not_mem_nil _) segment ((List.takeWhile_prefix _).mem kept)
  have fits := List.mem_takeWhile_imp (p := fun segment => byteSize segment < maxScanTokenSize) kept
  have shorter : dropCR segment <+: segment := by
    unfold dropCR
    split
    · exact List.dropLast_prefix segment
    · exact List.prefix_refl segment
  exact ⟨fun inside => noNewline (shorter.mem inside), lt_of_le_of_lt (byteSize_le_of_startsWith shorter) (of_decide_eq_true fits)⟩

theorem scanLines_unlines (lines : List (List Char)) (noNewline : ∀ line ∈ lines, '\n' ∉ line)
    (fit : ∀ line ∈ lines, byteSize line < maxScanTokenSize) (noCR : ∀ line ∈ lines, line.getLast? ≠ some '\r') :
    scanLines (unlines lines) = lines := by
  have whole := segmentsFrom_unlines lines noNewline []
  rw [List.append_nil] at whole
  rw [scanLines, whole, ← List.append_nil lines, List.takeWhile_append_of_pos (by simpa using fit)]
  simp only [segmentsFrom, if_true, List.takeWhile_nil, List.append_nil]
  conv_rhs => rw [← List.map_id lines]
  exact List.map_congr_left fun line mem => by simp [dropCR, noCR line mem]

theorem scanLines_unlines_long (lines : List (List Char)) (noNewline : ∀ line ∈ lines, '\n' ∉ line)
    (fit : ∀ line ∈ lines, byteSize line < maxScanTokenSize) (long rest : List Char) (longNoNewline : '\n' ∉ long)
    (tooLong : maxScanTokenSize ≤ byteSize long) :
    scanLines (unlines lines ++ long ++ rest) = scanLines (unlines lines) := by
  have begun : long ≠ [] := by
    rintro rfl
    simp [maxScanTokenSize] at tooLong
  obtain ⟨more, after, cut⟩ := segmentsFrom_head long begun rest
  have stops : maxScanTokenSize ≤ byteSize long + byteSize more := le_trans tooLong (Nat.le_add_right _ _)
  have fits : ∀ line ∈ lines, decide (byteSize line < maxScanTokenSize) = true := by simpa using fit
  have whole := segmentsFrom_unlines lines noNewline []
  rw [List.append_nil] at whole
  rw [scanLines, scanLines, List.append_assoc, segmentsFrom_unlines lines noNewline, whole,
    segmentsFrom_append [] long rest longNoNewline, List.nil_append, cut,
    List.takeWhile_append_of_pos fits, List.takeWhile_append_of_pos fits]
  simp [stops, segmentsFrom]

/-! ### `dedent` -/

def notSpace (c : Char) : Bool := !isSpace c

def nonBlank (line : List Char) : Bool := line.any notSpace

def dedentWarning (line indentation : List Char) : Printf :=
  ⟨"\nWARNING: the line\n  %q\ncannot be dedented as missing the prefix %q\n", [.str ⟨line⟩, .str ⟨indentation⟩]⟩

/-- The loop of `dedent` over the scanned lines, from its state: the indentation (the text
"-" until the first non-blank line sets it) and what it has written. An error is the
warning printed before the script is returned as it was. -/
def dedentLoop : List (List Char) → List Char → List Char → Except Printf (List Char)
  | [], _, written => .ok written
  | text :: lines, indentation, written =>
    match indexFunc notSpace text with
    | none => dedentLoop lines indentation written
    | some i =>
      if indentation = ['-'] then dedentLoop lines (text.take i) (written ++ text.drop i ++ ['\n'])
      else if indentation.isPrefixOf text then
        dedentLoop lines indentation (written ++ text.drop indentation.length ++ ['\n'])
      else .error (dedentWarning text indentation)

def dedent (cmd : String) : String × Option Printf :=
  match dedentLoop (scanLines cmd.toList) ['-'] [] with
  | .ok written => (⟨written⟩, none)
  | .error warning => (cmd, some warning)

/-- What `dedent` is for, over the scanned lines: the non-blank lines without the white
space that begins the first of them; or else the first later line that does not begin
with it, and that white space. -/
def dedented (lines : List (List Char)) : Except (List Char × List Char) (List (List Char)) :=
  match lines.filter nonBlank with
  | [] => .ok []
  | first :: rest =>
    match rest.find? fun line => !(first.takeWhile isSpace).isPrefixOf line with
    | some line => .error (line, first.takeWhile isSpace)
    | none => .ok ((first :: rest).map (·.drop (first.takeWhile isSpace).length))

theorem indexFunc_notSpace_none {text : List Char} : indexFunc notSpace text = none ↔ nonBlank text = false := by
  simp [indexFunc_eq_none, nonBlank]

theorem indexFunc_notSpace_some {text : List Char} {i : Nat} (found : indexFunc notSpace text = some i) :
    text.take i = text.takeWhile isSpace ∧ text.drop i = text.dropWhile isSpace := by
  simpa [notSpace] using indexFunc_eq_some found

theorem nonBlank_of_indexFunc {text : List Char} {i : Nat} (found : indexFunc notSpace text = some i) :
    nonBlank text = true := by
  cases blank : nonBlank text
  · rw [indexFunc_notSpace_none.mpr blank] at found
    cases found
  · rfl

theorem drop_length_takeWhile (p : Char → Bool) (text : List Char) :
    text.drop (text.takeWhile p).length = text.dropWhile p := by
  have split := List.drop_left (text.takeWhile p) (text.dropWhile p)
  rwa [List.takeWhile_append_dropWhile] at split

theorem takeWhile_isSpace_ne_dash (text : List Char) : text.takeWhile isSpace ≠ ['-'] := by
  intro dash
  have mem : '-' ∈ text.takeWhile isSpace := by simp [dash]
  exact absurd (List.mem_takeWhile_imp mem) (by decide)

theorem dedentLoop_indented (indentation : List Char) (set : indentation ≠ ['-']) (lines : List (List Char))
    (written : List Char) :
    dedentLoop lines indentation written =
      match (lines.filter nonBlank).find? fun line => !indentation.isPrefixOf line with
      | some line => .error (dedentWarning line indentation)
      | none => .ok (written ++ unlines ((lines.filter nonBlank).map (·.drop indentation.length))) := by
  induction lines generalizing written with
  | nil => simp [dedentLoop]
  | cons text lines ih =>
    cases found : indexFunc notSpace text with
    | none =>
      simp only [dedentLoop, found, List.filter_cons, indexFunc_notSpace_none.mp found, ih]
      rfl
    | some i =>
      by_cases starts : indentation.isPrefixOf text
      · simp [dedentLoop, found, set, starts, nonBlank_of_indexFunc found, ih, List.append_assoc]
      · simp [dedentLoop, found, set, starts, nonBlank_of_indexFunc found]

/-- The loop computes `dedented`: the refinement of the abstract `dedent` by the code. -/
theorem dedentLoop_start (lines : List (List Char)) (written : List Char) :
    dedentLoop lines ['-'] written =
      ((dedented lines).map fun kept => written ++ unlines kept).mapError
        fun missing => dedentWarning missing.1 missing.2 := by
  induction lines generalizing written with
  | nil => simp [dedentLoop, dedented, Except.map, Except.mapError]
  | cons text lines ih =>
    cases found : indexFunc notSpace text with
    | none =>
      simp only [dedentLoop, found, ih, dedented, List.filter_cons, indexFunc_notSpace_none.mp found]
      rfl
    | some i =>
      obtain ⟨taken, dropped⟩ := indexFunc_notSpace_some found
      simp only [dedentLoop, found, if_true, taken, dropped,
        dedentLoop_indented _ (takeWhile_isSpace_ne_dash text), dedented, List.filter_cons,
        nonBlank_of_indexFunc found]
      cases (lines.filter nonBlank).find? fun line => !(text.takeWhile isSpace).isPrefixOf line with
      | some line => rfl
      | none => simp [Except.map, Except.mapError, drop_length_takeWhile, List.append_assoc]

/-- `dedent` is `dedented` over the lines its scanner yields: the kept lines ended by
newlines, or the script as it was with one warning naming the line without the
indentation. -/
theorem dedent_eq (cmd : String) :
    dedent cmd =
      match dedented (scanLines cmd.toList) with
      | .ok kept => (⟨unlines kept⟩, none)
      | .error missing => (cmd, some (dedentWarning missing.1 missing.2)) := by
  unfold dedent
  rw [dedentLoop_start]
  cases dedented (scanLines cmd.toList) <;> rfl

example : dedent "\n    cat <<EOF\n    This is a test\n    EOF\n  " = ("cat <<EOF\nThis is a test\nEOF\n", none) := by
  decide

theorem dedent_of_ok {cmd : String} {kept : List (List Char)} (ok : dedented (scanLines cmd.toList) = .ok kept) :
    dedent cmd = (⟨unlines kept⟩, none) := by
  unfold dedent
  rw [dedentLoop_start, ok]
  rfl

theorem dedent_of_error {cmd : String} {missing : List Char × List Char}
    (failed : dedented (scanLines cmd.toList) = .error missing) :
    dedent cmd = (cmd, some (dedentWarning missing.1 missing.2)) := by
  unfold dedent
  rw [dedentLoop_start, failed]
  rfl

theorem dedented_of_dedent {cmd : String} (dedents : (dedent cmd).2 = none) :
    ∃ kept, dedented (scanLines cmd.toList) = .ok kept := by
  cases result : dedented (scanLines cmd.toList) with
  | ok kept => exact ⟨kept, rfl⟩
  | error missing => simp [dedent_of_error result] at dedents

theorem takeWhile_dropWhile (p : Char → Bool) (text : List Char) : (text.dropWhile p).takeWhile p = [] := by
  cases dropped : text.dropWhile p with
  | nil => rfl
  | cons c rest =>
    have stop := List.head_dropWhile_not p text (by simp [dropped])
    simp only [dropped, List.head_cons] at stop
    simp [stop]

theorem nonBlank_drop {indentation line : List Char} (pre : indentation <+: line)
    (spaces : ∀ c ∈ indentation, isSpace c = true) : nonBlank (line.drop indentation.length) = nonBlank line := by
  obtain ⟨rest, rfl⟩ := pre
  have blank : indentation.any notSpace = false := by simpa [notSpace] using spaces
  rw [List.drop_left, nonBlank, nonBlank, List.any_append, blank, Bool.false_or]

theorem dedented_ok {lines kept : List (List Char)} (ok : dedented lines = .ok kept) :
    (∀ k ∈ kept, nonBlank k = true ∧ ∃ line ∈ lines, ∃ n, k = line.drop n) ∧
      ∀ k ∈ kept.head?, k.takeWhile isSpace = [] := by
  unfold dedented at ok
  split at ok
  · cases ok
    simp
  · rename_i first rest kept_eq
    split at ok
    · cases ok
    · rename_i unmatched
      cases ok
      have spaces : ∀ c ∈ first.takeWhile isSpace, isSpace c = true := fun c mem => List.mem_takeWhile_imp mem
      have indented : ∀ line ∈ first :: rest, first.takeWhile isSpace <+: line := by
        simp only [List.mem_cons, forall_eq_or_imp]
        refine ⟨List.takeWhile_prefix _, fun line mem => ?_⟩
        simpa using List.find?_eq_none.mp unmatched line mem
      refine ⟨fun k mem => ?_, ?_⟩
      · obtain ⟨line, member, rfl⟩ := List.mem_map.mp mem
        have filtered : line ∈ lines.filter nonBlank := kept_eq ▸ member
        obtain ⟨inLines, nonBlankLine⟩ := List.mem_filter.mp filtered
        exact ⟨(nonBlank_drop (indented line member) spaces).trans nonBlankLine, line, inLines, _, rfl⟩
      · intro k head
        simp only [List.map_cons, List.head?_cons, Option.mem_def, Option.some.injEq] at head
        rw [← head, drop_length_takeWhile, takeWhile_dropWhile]

theorem dedented_flush (kept : List (List Char)) (nonBlanks : ∀ k ∈ kept, nonBlank k = true)
    (flush : ∀ k ∈ kept.head?, k.takeWhile isSpace = []) : dedented kept = .ok kept := by
  unfold dedented
  rw [List.filter_eq_self.mpr nonBlanks]
  cases kept with
  | nil => rfl
  | cons k rest =>
    have none : k.takeWhile isSpace = [] := flush k rfl
    have unmatched : rest.find? (fun _ => false) = Option.none := List.find?_eq_none.mpr (by simp)
    simp [none, unmatched]

theorem getLast?_drop {line : List Char} {n : Nat} (kept : line.drop n ≠ []) :
    (line.drop n).getLast? = line.getLast? := by
  obtain ⟨c, last⟩ : ∃ c, (line.drop n).getLast? = some c :=
    Option.ne_none_iff_exists'.mp (by simpa using kept)
  conv_rhs => rw [← List.take_append_drop n line]
  rw [List.getLast?_append, last]
  rfl

/-- A script `dedent` changed dedents to itself, unless one of its lines ends in a carriage
return that the scanner leaves (two before the newline), which the next scan strips. -/
theorem dedent_idempotent (cmd : String) (noCR : ∀ line ∈ scanLines cmd.toList, line.getLast? ≠ some '\r')
    (dedents : (dedent cmd).2 = none) : dedent (dedent cmd).1 = ((dedent cmd).1, none) := by
  obtain ⟨kept, ok⟩ := dedented_of_dedent dedents
  obtain ⟨tails, flush⟩ := dedented_ok ok
  have suffix (k : List Char) (mem : k ∈ kept) :
      '\n' ∉ k ∧ byteSize k < maxScanTokenSize ∧ k.getLast? ≠ some '\r' := by
    obtain ⟨nonBlankK, line, scanned, n, rfl⟩ := tails k mem
    obtain ⟨noNewline, fits⟩ := scanLines_fit cmd.toList line scanned
    have kept : line.drop n ≠ [] := by
      rintro empty
      simp [empty, nonBlank] at nonBlankK
    exact ⟨fun inside => noNewline (List.mem_of_mem_drop inside), lt_of_le_of_lt (byteSize_drop_le n line) fits,
      (getLast?_drop kept).symm ▸ noCR line scanned⟩
  have back : scanLines (unlines kept) = kept :=
    scanLines_unlines kept (fun k mem => (suffix k mem).1) (fun k mem => (suffix k mem).2.1)
      (fun k mem => (suffix k mem).2.2)
  rw [dedent_of_ok ok]
  exact dedent_of_ok (show dedented (scanLines (unlines kept)) = .ok kept by
    rw [back]
    exact dedented_flush kept (fun k mem => (tails k mem).1) flush)

theorem dedent_idempotent_script :
    (∀ line ∈ scanLines "  echo a\n\n    echo b\n".toList, line.getLast? ≠ some '\r') ∧
      (dedent "  echo a\n\n    echo b\n").2 = none ∧
      dedent (dedent "  echo a\n\n    echo b\n").1 = ((dedent "  echo a\n\n    echo b\n").1, none) :=
  have noCR : ∀ line ∈ scanLines "  echo a\n\n    echo b\n".toList, line.getLast? ≠ some '\r' := by decide
  have dedents : (dedent "  echo a\n\n    echo b\n").2 = none := by decide
  ⟨noCR, dedents, dedent_idempotent _ noCR dedents⟩

/-- A line of `maxScanTokenSize` bytes or more ends what `dedent` reads: when the lines
before it dedent, `dedent` returns what they give, with no warning, and the long line and
all after it are lost. -/
theorem dedent_drops_after_long_line (lines : List (List Char)) (noNewline : ∀ line ∈ lines, '\n' ∉ line)
    (fit : ∀ line ∈ lines, byteSize line < maxScanTokenSize) (long rest : List Char) (longNoNewline : '\n' ∉ long)
    (tooLong : maxScanTokenSize ≤ byteSize long) (dedents : (dedent ⟨unlines lines⟩).2 = none) :
    dedent ⟨unlines lines ++ long ++ rest⟩ = dedent ⟨unlines lines⟩ := by
  obtain ⟨kept, ok⟩ := dedented_of_dedent dedents
  rw [dedent_of_ok ok]
  apply dedent_of_ok
  show dedented (scanLines (unlines lines ++ long ++ rest)) = .ok kept
  rw [scanLines_unlines_long lines noNewline fit long rest longNoNewline tooLong]
  exact ok

theorem byteSize_replicate (n : Nat) (c : Char) : byteSize (List.replicate n c) = n * c.utf8Size := by
  induction n with
  | zero => simp
  | succ n ih => simp [List.replicate_succ, ih, Nat.succ_mul, Nat.add_comm]

theorem dedent_drops_after_long_line_script :
    (∀ line ∈ ["  echo a".toList], '\n' ∉ line) ∧ (∀ line ∈ ["  echo a".toList], byteSize line < maxScanTokenSize) ∧
      '\n' ∉ List.replicate 65536 'x' ∧ maxScanTokenSize ≤ byteSize (List.replicate 65536 'x') ∧
      (dedent ⟨unlines ["  echo a".toList]⟩).2 = none ∧
      dedent ⟨unlines ["  echo a".toList] ++ List.replicate 65536 'x' ++ "\n  echo b\n".toList⟩ =
        dedent ⟨unlines ["  echo a".toList]⟩ :=
  have noNewline : ∀ line ∈ ["  echo a".toList], '\n' ∉ line := by decide
  have fit : ∀ line ∈ ["  echo a".toList], byteSize line < maxScanTokenSize := by decide
  have longNoNewline : '\n' ∉ List.replicate 65536 'x' := fun mem => absurd (List.eq_of_mem_replicate mem) (by decide)
  have tooLong : maxScanTokenSize ≤ byteSize (List.replicate 65536 'x') := by
    rw [byteSize_replicate]
    decide
  have dedents : (dedent ⟨unlines ["  echo a".toList]⟩).2 = none := by decide
  ⟨noNewline, fit, longNoNewline, tooLong, dedents,
    dedent_drops_after_long_line _ noNewline fit _ _ longNoNewline tooLong dedents⟩

/-! ### `bashCmd` -/

def bashPreamble : String :=
  "\nset -e -o pipefail\n" ++
  "# Try to ignore pipefail errors (encountered when writing to a closed pipe).\n" ++
  "# Processes like \x27yes\x27 are essentially guaranteed to hit this, and because of\n" ++
  "# -e -o pipefail they will crash the whole script. We need these options,\n" ++
  "# though, for \x27match\x27 to work, so for now we work around pipefail errors on a\n" ++
  "# cmd-by-cmd basis. See \"The Infamous SIGPIPE Signal\"\n" ++
  "# http://www.tldp.org/LDP/lpg/node20.html\n" ++
  "pipeerr=141 # typical error code returned by unix utils when SIGPIPE is raised\n" ++
  "function yes \x7b\n" ++
  "\t/usr/bin/yes || test \"$?\" -eq \"$\x7bpipeerr\x7d\"\n" ++
  "\x7d\n" ++
  "export -f yes # use in subshells too\n" ++
  "which match >/dev/null || \x7b\n" ++
  "\techo \"You must have \x27match\x27 installed to run these tests. Please run:\" >&2\n" ++
  "\techo \"  go install ./src/testing/match\" >&2\n" ++
  "\texit 1\n" ++
  "\x7d"

def copySubs : List String → (String → Option String) → String → Option String
  | name :: value :: subs, subsMap => copySubs subs (Function.update subsMap name (some value))
  | _, subsMap => subsMap

/-- `bashCmd`: what `dedent` writes on stderr, and the script, or a panic. `parse` and
`execute` are `text/template`'s; `Execute`'s error is not checked, so the script holds
whatever it wrote. -/
def bashCmd {Template : Type} (parse : String → Except String Template)
    (execute : Template → (String → Option String) → String) (cmd : String) (subs : List String) :
    List Printf × Go String :=
  if subs.length % 2 = 1 then ([], .error "some variable does not have a corresponding value")
  else
    let subsMap := copySubs subs fun _ => none
    ((dedent cmd).2.toList,
      match parse (dedent cmd).1 with
      | .error err => .error err
      | .ok template => .ok (bashPreamble ++ "\n" ++ execute template subsMap))

def subsPairs : List String → List (String × String)
  | name :: value :: subs => (name, value) :: subsPairs subs
  | _ => []

/-- The copied map binds a name to the value of its last pair, and otherwise keeps what it
had. -/
theorem copySubs_eq (subs : List String) (subsMap : String → Option String) (key : String) :
    copySubs subs subsMap key = ((subsPairs subs).reverse.lookup key).or (subsMap key) := by
  induction subs, subsMap using copySubs.induct with
  | case1 name value subs subsMap ih =>
    rw [copySubs, ih, subsPairs, List.reverse_cons, List.lookup_append, Option.or_assoc]
    congr 1
    by_cases same : key = name
    · simp [List.lookup_cons, Function.update, same]
    · simp [List.lookup_cons, Function.update, same, beq_false_of_ne same]
  | case2 subs subsMap notPair =>
    rcases subs with _ | ⟨_, _ | ⟨_, _⟩⟩
    · rfl
    · rfl
    · exact absurd rfl (notPair _ _ _)

/-- With an even number of `subs` and a script that parses, `bashCmd` runs the template with
each name bound to the value of its last pair. -/
theorem bashCmd_binds_last {Template : Type} (parse : String → Except String Template)
    (execute : Template → (String → Option String) → String) (cmd : String) (subs : List String)
    (even : subs.length % 2 = 0) (template : Template) (parsed : parse (dedent cmd).1 = .ok template) :
    bashCmd parse execute cmd subs =
      ((dedent cmd).2.toList, .ok (bashPreamble ++ "\n" ++ execute template fun key => (subsPairs subs).reverse.lookup key)) := by
  have bindings : copySubs subs (fun _ => none) = fun key => (subsPairs subs).reverse.lookup key := by
    funext key
    simp [copySubs_eq]
  simp [bashCmd, even, parsed, bindings]

def verbatim (template : String) (_ : String → Option String) : String := template

theorem bashCmd_binds_last_script :
    ["x", "1", "x", "2"].length % 2 = 0 ∧
      bashCmd (Except.ok : String → Except String String) verbatim "  echo x\n" ["x", "1", "x", "2"] =
        ((dedent "  echo x\n").2.toList,
          .ok (bashPreamble ++ "\n" ++ verbatim (dedent "  echo x\n").1
            fun key => (subsPairs ["x", "1", "x", "2"]).reverse.lookup key)) :=
  have even : ["x", "1", "x", "2"].length % 2 = 0 := rfl
  ⟨even, bashCmd_binds_last _ _ _ _ even _ rfl⟩

end OidcLogin.Testutil
