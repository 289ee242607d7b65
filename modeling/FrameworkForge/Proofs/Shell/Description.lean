import FrameworkForge.Proofs.Path.Spelling
import FrameworkForge.Proofs.Shell.Scan
import FrameworkForge.Task
import Mathlib.Data.List.Forall2

/-! The description of a task is a command line for a shell. Who reads it as a shell does finds the
directory of the task, its overrides and its words. -/

namespace FrameworkForge

namespace Shell

open Text (isPlainInWord wordChars)

/-- A command line as a shell understands it. -/
structure Reading where
  directory : Option Path
  assignments : List (String × String)
  argv : List String
  deriving DecidableEq

def isName : List Char → Bool
  | [] => false
  | c :: cs => (c.isAlpha || c = '_') && cs.all fun d => d.isAlphanum || d = '_'

def wordText (pieces : List Piece) : String :=
  String.ofList (spelling pieces)

def bareStart : List Piece → List Char
  | .bare c :: pieces => if c = '=' then [] else c :: bareStart pieces
  | _ => []

/-- A word that starts with a name and an equals sign, none of it quoted, gives the name the rest of
the word as its value. -/
def assignment? (pieces : List Piece) : Option (String × String) :=
  match pieces.drop (bareStart pieces).length with
  | .bare '=' :: value =>
    if isName (bareStart pieces) then some (String.ofList (bareStart pieces), wordText value)
    else none
  | _ => none

def commandOf : List (List Piece) → List (String × String) × List String
  | [] => ([], [])
  | pieces :: words =>
    match assignment? pieces with
    | some entry => (entry :: (commandOf words).1, (commandOf words).2)
    | none => ([], (pieces :: words).map wordText)

def takeWords : List Token → List (List Piece) × List Token
  | .word pieces :: tokens => (pieces :: (takeWords tokens).1, (takeWords tokens).2)
  | tokens => ([], tokens)

def readingOf (directory : Option Path) (words : List (List Piece)) : Reading :=
  ⟨directory, (commandOf words).1, (commandOf words).2⟩

/-- A command alone, or between brackets behind a change of directory. -/
def parse (tokens : List Token) : Option Reading :=
  match tokens with
  | .opening :: tokens =>
    match takeWords tokens with
    | ([change, place], .andThen :: tokens) =>
      match takeWords tokens with
      | (words, [.closing]) =>
        if wordText change = "cd" then some (readingOf (some (.parse (wordText place))) words)
        else none
      | _ => none
    | _ => none
  | tokens =>
    match takeWords tokens with
    | (words, []) => some (readingOf none words)
    | _ => none

def reading? (line : String) : Option Reading :=
  (scan (.plain none) line.toList).bind parse

/-- What follows ends a word that has begun. -/
def Ends (rest : List Char) : Prop :=
  ∀ pieces, scan (.plain (some pieces)) rest = (scan (.plain none) rest).map (.word pieces :: ·)

theorem ends_nil : Ends [] :=
  fun _ => rfl

theorem scan_blank (rest : List Char) : scan (.plain none) (' ' :: rest) = scan (.plain none) rest :=
  scan_cons_silent _ rfl rest

theorem ends_blank (rest : List Char) : Ends (' ' :: rest) := by
  intro pieces
  rw [scan_blank, scan_cons [.word pieces] (.plain none) rfl]
  rfl

theorem ends_closing : Ends [')'] :=
  fun _ => rfl

/-- The characters are read as the given words, when what follows ends the last of them. -/
def ReadsAs (cs : List Char) (words : List (List Piece)) : Prop :=
  ∀ rest, Ends rest →
    scan (.plain none) (cs ++ rest) = (scan (.plain none) rest).map (words.map .word ++ ·)

theorem readsAs_of_scan {cs : List Char} {pieces : List Piece}
    (h : ∀ rest, scan (.plain none) (cs ++ rest) = scan (.plain (some pieces)) rest) :
    ReadsAs cs [pieces] := by
  intro rest hrest
  rw [h, hrest]
  rfl

theorem readsAs_wordChars (cs : List Char) : ReadsAs (wordChars cs) [wordPieces cs] :=
  readsAs_of_scan fun rest => scan_wordChars none cs rest

theorem readsAs_intercalate {texts : List (List Char)} {words : List (List (List Piece))}
    (h : List.Forall₂ ReadsAs texts words) : ReadsAs ([' '].intercalate texts) words.flatten := by
  induction h with
  | nil =>
    intro rest _
    exact Option.map_id'.symm
  | @cons text word texts words hfirst hrest ih =>
    cases texts with
    | nil =>
      obtain rfl : words = [] := by simpa using hrest
      simpa using hfirst
    | cons next texts =>
      intro rest hends
      rw [List.intercalate_cons_cons, List.append_assoc, List.append_assoc, List.singleton_append,
        hfirst _ (ends_blank _), scan_blank, ih rest hends]
      simp [Option.map_map, Function.comp_def]

theorem takeWords_append (words : List (List Piece)) (rest : List Token)
    (h : takeWords rest = ([], rest)) :
    takeWords (words.map .word ++ rest) = (words, rest) := by
  induction words with
  | nil => exact h
  | cons pieces words ih => simp [takeWords, ih]

theorem isPlainInWord_of_isName {name : List Char} (h : isName name = true) :
    ∀ c ∈ name, isPlainInWord c = true ∧ c ≠ '=' := by
  have hletter {c : Char} (hc : (c.isAlphanum || c = '_') = true) :
      isPlainInWord c = true ∧ c ≠ '=' := by
    refine ⟨?_, ?_⟩
    · rcases Bool.or_eq_true_iff.mp hc with hc | hc
      · simp [isPlainInWord, hc]
      · simp [isPlainInWord, of_decide_eq_true hc]
    · rintro rfl
      exact absurd hc (by decide)
  cases name with
  | nil => simp
  | cons c cs =>
    obtain ⟨hc, hcs⟩ := Bool.and_eq_true_iff.mp h
    refine List.forall_mem_cons.mpr ⟨hletter ?_, fun d hd => hletter (List.all_eq_true.mp hcs d hd)⟩
    rcases Bool.or_eq_true_iff.mp hc with hc | hc
    · simp [Char.isAlphanum, hc]
    · simp [hc]

def assignmentPieces (name value : List Char) : List Piece :=
  name.map .bare ++ .bare '=' :: wordPieces value

theorem readsAs_assignment {name : List Char} (h : isName name = true) (value : List Char) :
    ReadsAs (name ++ '=' :: wordChars value) [assignmentPieces name value] := by
  apply readsAs_of_scan
  intro rest
  have hbare : ∀ c ∈ name ++ ['='], c ∉ special := by
    intro c hc
    apply not_special_of_isPlainInWord
    rcases List.mem_append.mp hc with hc | hc
    · exact (isPlainInWord_of_isName h c hc).1
    · rw [List.mem_singleton.mp hc]
      decide
  have hcut : name ++ '=' :: wordChars value ++ rest =
      (name ++ ['=']) ++ (wordChars value ++ rest) := by simp
  rw [hcut, scan_bares none _ (by simp) hbare, scan_wordChars]
  simp [assignmentPieces]

theorem bareStart_append {name : List Char} (h : '=' ∉ name) (value : List Piece) :
    bareStart (name.map .bare ++ .bare '=' :: value) = name := by
  induction name with
  | nil => simp [bareStart]
  | cons c cs ih =>
    simp only [List.mem_cons, not_or] at h
    simp [bareStart, Ne.symm h.1, ih h.2]

theorem assignment?_assignmentPieces {name : List Char} (h : isName name = true)
    (value : List Char) : assignment? (assignmentPieces name value) =
      some (String.ofList name, String.ofList value) := by
  have hstart : bareStart (assignmentPieces name value) = name :=
    bareStart_append (fun hmem => (isPlainInWord_of_isName h '=' hmem).2 rfl) _
  have hdrop : (assignmentPieces name value).drop name.length =
      .bare '=' :: wordPieces value := by
    rw [assignmentPieces, List.drop_left' (by simp)]
  simp only [assignment?, hstart, hdrop, h, if_true, wordText, spelling_wordPieces]

theorem assignment?_of_slash {pieces : List Piece} {cs : List Char}
    (h : spelling pieces = '/' :: cs) : assignment? pieces = none := by
  cases pieces with
  | nil => simp [spelling] at h
  | cons piece pieces =>
    cases piece with
    | bare c =>
      obtain rfl : c = '/' := by simp_all [spelling, Piece.chars]
      have hname : isName ('/' :: bareStart pieces) = false := by simp [isName]
      simp [assignment?, bareStart, hname]
      split <;> simp
    | quoted held => simp [assignment?, bareStart]

theorem commandOf_assignments {entries : List (String × String)}
    (h : ∀ entry ∈ entries, isName entry.1.toList = true) (words : List (List Piece)) :
    commandOf (entries.map (fun entry => assignmentPieces entry.1.toList entry.2.toList) ++ words) =
      (entries ++ (commandOf words).1, (commandOf words).2) := by
  induction entries with
  | nil => rfl
  | cons entry entries ih =>
    obtain ⟨hentry, hentries⟩ := List.forall_mem_cons.mp h
    simp [commandOf, assignment?_assignmentPieces hentry, ih hentries]

theorem parse_words (words : List (List Piece)) :
    parse (words.map .word) = some (readingOf none words) := by
  have htake : takeWords (words.map .word) = (words, []) := by
    simpa using takeWords_append words [] rfl
  cases words with
  | nil => rfl
  | cons pieces words => simp_all [parse]

def changeWord : List Char := ['c', 'd']

theorem parse_changed (place : List Piece) (words : List (List Piece)) :
    parse (.opening :: .word (changeWord.map .bare) :: .word place :: .andThen ::
        (words.map .word ++ [.closing])) =
      some (readingOf (some (.parse (wordText place))) words) := by
  have hchange : wordText (changeWord.map .bare) = "cd" := rfl
  have htake := takeWords_append words [.closing] rfl
  simp [parse, takeWords, hchange, htake]

theorem scan_andThen (rest : List Char) : scan (.plain none) (" && ".toList ++ rest) =
    (scan (.plain none) rest).map (.andThen :: ·) := by
  change scan (.plain none) (' ' :: '&' :: '&' :: ' ' :: rest) = _
  rw [scan_blank, scan_cons_silent .ampersand rfl, scan_cons [.andThen] (.plain none) rfl,
    scan_blank]
  rfl

end Shell

theorem Path.exists_text_eq_slash {p : Path} (h : p.isAbsolute = true) :
    ∃ cs, p.text.toList = '/' :: cs := by
  obtain ⟨lead, parts⟩ := p
  cases lead with
  | relative => simp [isAbsolute] at h
  | root => simp [text, leadText]
  | doubleRoot => simp [text, leadText]

namespace Task

open Shell
open Text (wordChars word words)

def describedWords (t : Task) : List (List Piece) :=
  t.overrides.sorted.map (fun entry => assignmentPieces entry.1.toList entry.2.toList) ++
    t.argv.map fun argument => wordPieces argument.toList

def NamesAreShellNames (t : Task) : Prop :=
  ∀ name ∈ t.overrides.names, isName name.toList = true

variable {t : Task}

theorem toList_assignment (entry : String × String) :
    (assignment entry).toList = entry.1.toList ++ '=' :: wordChars entry.2.toList := by
  have htext : assignment entry = entry.1 ++ "=" ++ word entry.2 := rfl
  simp [htext, word]

theorem toList_describe {p : Path} (h : t.directory = some p) : t.describe.toList =
    '(' :: ([' '].intercalate [changeWord, wordChars p.text.toList] ++
      (" && ".toList ++ (t.commandText.toList ++ [')']))) := by
  have htext : t.describe = "(cd " ++ word p.text ++ " && " ++ t.commandText ++ ")" := by
    rw [describe, h]
    rfl
  simp [htext, word, changeWord]

theorem isName_of_mem_sorted (h : t.NamesAreShellNames) :
    ∀ entry ∈ t.overrides.sorted, isName entry.1.toList = true := by
  intro entry hentry
  exact h _ (List.mem_map_of_mem (t.overrides.perm_sorted.mem_iff.mp hentry))

theorem readsAs_commandText (h : t.NamesAreShellNames) :
    ReadsAs t.commandText.toList t.describedWords := by
  have hassignments : List.Forall₂ ReadsAs
      (t.overrides.sorted.map fun entry => entry.1.toList ++ '=' :: wordChars entry.2.toList)
      (t.overrides.sorted.map fun entry =>
        [assignmentPieces entry.1.toList entry.2.toList]) := by
    rw [List.forall₂_map_left_iff, List.forall₂_map_right_iff, List.forall₂_same]
    exact fun entry hentry => readsAs_assignment (isName_of_mem_sorted h entry hentry) _
  have harguments : List.Forall₂ ReadsAs (t.argv.map fun argument => wordChars argument.toList)
      (t.argv.map fun argument => [wordPieces argument.toList]) := by
    rw [List.forall₂_map_left_iff, List.forall₂_map_right_iff, List.forall₂_same]
    exact fun argument _ => readsAs_wordChars argument.toList
  have hall := readsAs_intercalate
    (List.rel_append hassignments (.cons (readsAs_intercalate harguments) .nil))
  have htext : t.commandText.toList = [' '].intercalate
      ((t.overrides.sorted.map fun entry => entry.1.toList ++ '=' :: wordChars entry.2.toList) ++
        [[' '].intercalate (t.argv.map fun argument => wordChars argument.toList)]) := by
    simp [commandText, toList_assignment, words, word, Function.comp_def]
  have hsingle {α : Type} (f : α → List Piece) (xs : List α) :
      (xs.map fun x => [f x]).flatten = xs.map f := by
    rw [← List.flatMap_def, ← List.map_eq_flatMap]
  rw [htext, describedWords]
  simpa only [List.flatten_append, List.flatten_cons, List.flatten_nil, List.append_nil, hsingle]
    using hall

theorem commandOf_describedWords (h : t.NamesAreShellNames) :
    commandOf t.describedWords = (t.overrides.sorted, t.argv) := by
  obtain ⟨cs, hcs⟩ := Path.exists_text_eq_slash t.executable.absolute
  have hprogram : assignment? (wordPieces t.executable.path.text.toList) = none :=
    assignment?_of_slash ((spelling_wordPieces _).trans hcs)
  have hargv : commandOf (t.argv.map fun argument => wordPieces argument.toList) =
      ([], t.argv) := by
    simp [argv, commandOf, hprogram, wordText, spelling_wordPieces, Function.comp_def]
  rw [describedWords, commandOf_assignments (isName_of_mem_sorted h), hargv, List.append_nil]

theorem reading?_describe (h : t.NamesAreShellNames) :
    reading? t.describe = some ⟨t.directory, t.overrides.sorted, t.argv⟩ := by
  have hcommand := readsAs_commandText h
  have hreading (directory : Option Path) :
      readingOf directory t.describedWords = ⟨directory, t.overrides.sorted, t.argv⟩ := by
    rw [readingOf, commandOf_describedWords h]
  cases hdirectory : t.directory with
  | none =>
    have hscan : scan (.plain none) t.commandText.toList = some (t.describedWords.map .word) := by
      simpa [scan, finish, ended] using hcommand [] ends_nil
    rw [reading?, describe, hdirectory, hscan, Option.bind_some, parse_words, hreading]
  | some p =>
    have hchange : ReadsAs changeWord [changeWord.map .bare] := by
      have hbare : wordChars changeWord = changeWord := by decide
      have hpieces : wordPieces changeWord = changeWord.map .bare := by decide
      have hread := readsAs_wordChars changeWord
      rwa [hbare, hpieces] at hread
    have hplace := readsAs_intercalate
      (.cons hchange (.cons (readsAs_wordChars p.text.toList) .nil))
    have hclosed : scan (.plain none) (t.commandText.toList ++ [')']) =
        some (t.describedWords.map .word ++ [.closing]) :=
      hcommand [')'] ends_closing
    have hscan : scan (.plain none) t.describe.toList = some (.opening ::
        .word (changeWord.map .bare) :: .word (wordPieces p.text.toList) :: .andThen ::
          (t.describedWords.map .word ++ [.closing])) := by
      have hends : Ends (" && ".toList ++ (t.commandText.toList ++ [')'])) := ends_blank _
      rw [toList_describe hdirectory, scan_cons [.opening] (.plain none) rfl, hplace _ hends,
        scan_andThen, hclosed]
      rfl
    rw [reading?, hscan, Option.bind_some, parse_changed, hreading, wordText, spelling_wordPieces,
      String.ofList_toList, Path.parse_text]

/-- Quotes of both kinds, and an equals sign behind the command. -/
example : reading? "A=1 B='' /bin/echo 'it'\"'\"'s' C=\"2 3\"4" =
    some ⟨none, [("A", "1"), ("B", "")], ["/bin/echo", "it's", "C=2 34"]⟩ := by
  decide +kernel

/-- Descriptions can be read back: the directory of the task, its overrides by increasing name with
their values, and its words. So tasks with one description are started in one way. -/
theorem describe_readable (h : t.NamesAreShellNames) :
    (∃ assignments, reading? t.describe = some ⟨t.directory, assignments, t.argv⟩ ∧
      assignments.Perm t.overrides.entries ∧ assignments.Pairwise fun a b => a.1 < b.1) ∧
    ∀ other : Task, other.NamesAreShellNames → other.describe = t.describe →
      other.directory = t.directory ∧ other.overrides.entries.Perm t.overrides.entries ∧
        other.argv = t.argv := by
  refine ⟨⟨t.overrides.sorted, reading?_describe h, t.overrides.perm_sorted,
    t.overrides.pairwise_sorted⟩, fun other hother heq => ?_⟩
  have hread : some (⟨other.directory, other.overrides.sorted, other.argv⟩ : Reading) =
      some ⟨t.directory, t.overrides.sorted, t.argv⟩ := by
    rw [← reading?_describe hother, heq, reading?_describe h]
  obtain ⟨hdirectory, hoverrides, hargv⟩ := Reading.mk.inj (Option.some.inj hread)
  refine ⟨hdirectory, ?_, hargv⟩
  exact other.overrides.perm_sorted.symm.trans (hoverrides ▸ t.overrides.perm_sorted)

/-- A task whose texts hold what a shell gives a meaning to. -/
theorem describe_readable_quoted :
    let t : Task := {
      executable := ⟨Path.parse "/opt/my tools/a=b", by decide⟩
      arguments := ["", "it's", "two words\nhere", "$HOME", "~", "x=1"]
      overrides := .ofList [("LEVEL", "2'\""), ("_empty", "")]
      directory := some (Path.parse "/tmp/(x) && y") }
    t.NamesAreShellNames ∧
      (∃ assignments, reading? t.describe = some ⟨t.directory, assignments, t.argv⟩ ∧
        assignments.Perm t.overrides.entries ∧ assignments.Pairwise fun a b => a.1 < b.1) ∧
      ∀ other : Task, other.NamesAreShellNames → other.describe = t.describe →
        other.directory = t.directory ∧ other.overrides.entries.Perm t.overrides.entries ∧
          other.argv = t.argv := by
  intro t
  have hnames : t.NamesAreShellNames := by
    unfold NamesAreShellNames
    decide
  exact ⟨hnames, describe_readable hnames⟩

end Task

end FrameworkForge
