/-
Purpose: the quoting of arguments for Windows (`shell_protocol.cpp`) is undone by
the rules that programs split their command line with.

Main exports: `quoteWindowsArgument`, `split_quotedArguments`
-/
import Heyaki.Core.Limits

namespace Heyaki

open List

def backslash : UInt8 := 92

def quoteMark : UInt8 := 34

def separates (character : UInt8) : Bool := character == 32 || character == 9

/-- The loop over the characters, with the backslashes that are not written yet. -/
def quoteRest : Nat → List UInt8 → List UInt8
  | backslashes, [] => replicate (2 * backslashes) backslash ++ [quoteMark]
  | backslashes, character :: rest =>
    if character = backslash then quoteRest (backslashes + 1) rest
    else if character = quoteMark then
      replicate (2 * backslashes + 1) backslash ++ quoteMark :: quoteRest 0 rest
    else replicate backslashes backslash ++ character :: quoteRest 0 rest

def quoteWindowsArgument (argument : List UInt8) : List UInt8 :=
  if !argument.isEmpty && !argument.any fun character =>
      separates character || character == quoteMark then argument
  else quoteMark :: quoteRest 0 argument

/-! ### The documented rules -/

/-- The arguments of a line, with the one that is being read.  Backslashes wait for what
follows them: before a quote two stand for one, and the quote is a character if one is left
over; elsewhere they stand for themselves. -/
def splitArguments : Bool → Nat → Option (List UInt8) → List UInt8 → List (List UInt8)
  | _, backslashes, argument, [] =>
    (argument.map (· ++ replicate backslashes backslash)).toList
  | quoted, backslashes, argument, character :: rest =>
    let text := argument.getD []
    if character = backslash then splitArguments quoted (backslashes + 1) (some text) rest
    else if character = quoteMark then
      let text := text ++ replicate (backslashes / 2) backslash
      if backslashes % 2 = 0 then splitArguments (!quoted) 0 (some text) rest
      else splitArguments quoted 0 (some (text ++ [quoteMark])) rest
    else if separates character && !quoted then
      (argument.map (· ++ replicate backslashes backslash)).toList ++
        splitArguments false 0 none rest
    else
      splitArguments quoted 0 (some (text ++ replicate backslashes backslash ++ [character])) rest

/-- What follows the program name: it ends at the first separator outside quotes. -/
def afterProgram : Bool → List UInt8 → List UInt8
  | _, [] => []
  | quoted, character :: rest =>
    if character = quoteMark then afterProgram (!quoted) rest
    else if separates character && !quoted then character :: rest
    else afterProgram quoted rest

def splitCommandLine (line : List UInt8) : List (List UInt8) :=
  splitArguments false 0 none (afterProgram false line)

/-- A text that is read as the program name when a space follows it. -/
structure ProgramName where
  text : List UInt8
  whole : afterProgram false (text ++ [32]) = [32]

def quotedArguments (arguments : List (List UInt8)) : List UInt8 :=
  arguments.flatMap fun argument => 32 :: quoteWindowsArgument argument

/-! ### Splitting what was quoted -/

variable {quoted : Bool} {backslashes : Nat} {text tail : List UInt8}
  {arguments : List (List UInt8)}

theorem splitArguments_replicate (count : Nat) :
    splitArguments quoted backslashes (some text) (replicate count backslash ++ tail) =
      splitArguments quoted (backslashes + count) (some text) tail := by
  induction count generalizing backslashes with
  | zero => rfl
  | succ count ih =>
    rw [replicate_succ, cons_append, splitArguments, if_pos rfl, Nat.add_comm count,
      ← Nat.add_assoc]
    exact ih

/-- Inside quotes the loop of the quoting is undone, up to the quote that closes them. -/
theorem splitArguments_quoteRest (rest : List UInt8) :
    splitArguments true 0 (some text) (quoteRest backslashes rest ++ tail) =
      splitArguments false 0 (some (text ++ (replicate backslashes backslash ++ rest))) tail := by
  induction rest generalizing backslashes text with
  | nil =>
    rw [quoteRest, append_assoc, splitArguments_replicate]
    simp [splitArguments, backslash, quoteMark]
  | cons character rest ih =>
    unfold quoteRest
    split_ifs with slash quote
    · rw [ih, slash, replicate_succ', append_assoc, singleton_append]
    · subst quote
      have odd : (2 * backslashes + 1) % 2 = 1 := by omega
      have half : (2 * backslashes + 1) / 2 = backslashes := by omega
      simp [splitArguments_replicate, splitArguments, slash, odd, half, ih]
    · simp [splitArguments_replicate, splitArguments, slash, quote, ih]

/-- The end of the line or the next separator ends an argument. -/
theorem splitArguments_end :
    splitArguments false backslashes (some text) (quotedArguments arguments) =
      (text ++ replicate backslashes backslash) ::
        splitArguments false 0 none (quotedArguments arguments) := by
  cases arguments <;> rfl

/-- What has no separators and quotes is read as it is. -/
theorem splitArguments_plain {rest : List UInt8}
    (plain : ∀ character ∈ rest, separates character = false ∧ character ≠ quoteMark) :
    splitArguments false backslashes (some text) (rest ++ quotedArguments arguments) =
      (text ++ (replicate backslashes backslash ++ rest)) ::
        splitArguments false 0 none (quotedArguments arguments) := by
  induction rest generalizing backslashes text with
  | nil =>
    rw [nil_append, append_nil]
    exact splitArguments_end
  | cons character rest ih =>
    obtain ⟨⟨inside, noQuote⟩, plain⟩ := forall_mem_cons.mp plain
    by_cases slash : character = backslash
    · simp [splitArguments, slash, ih plain, replicate_succ']
    · simp [splitArguments, slash, noQuote, inside, ih plain]

theorem splitArguments_quoteWindowsArgument (text : List UInt8) :
    splitArguments false 0 none (quoteWindowsArgument text ++ quotedArguments arguments) =
      text :: splitArguments false 0 none (quotedArguments arguments) := by
  unfold quoteWindowsArgument
  split_ifs with plain
  · simp only [Bool.and_eq_true, Bool.not_eq_true', isEmpty_eq_false_iff, any_eq_false,
      Bool.or_eq_true, beq_iff_eq, not_or, Bool.not_eq_true] at plain
    obtain ⟨character, rest, rfl⟩ := exists_cons_of_ne_nil plain.1
    -- the first character begins the argument, as an empty one would be begun
    have begun : splitArguments false 0 none (character :: rest ++ quotedArguments arguments) =
        splitArguments false 0 (some []) (character :: rest ++ quotedArguments arguments) := by
      have inside := (plain.2 character (mem_cons_self ..)).1
      simp [splitArguments, inside]
    exact begun.trans (splitArguments_plain plain.2)
  · refine (splitArguments_quoteRest text).trans (splitArguments_end.trans ?_)
    rw [replicate_zero, append_nil]
    rfl

theorem afterProgram_append (whole : afterProgram quoted (text ++ [32]) = [32]) :
    afterProgram quoted (text ++ quotedArguments arguments) = quotedArguments arguments := by
  induction text generalizing quoted with
  | nil =>
    cases quoted with
    | true => cases whole
    | false => cases arguments <;> rfl
  | cons character text ih =>
    rw [cons_append, afterProgram] at whole ⊢
    split_ifs at whole ⊢
    · exact ih whole
    · simp at whole
    · exact ih whole

/-- A line of a program name and quoted arguments is split into these arguments. -/
theorem split_quotedArguments (program : ProgramName) (arguments : List (List UInt8)) :
    splitCommandLine (program.text ++ quotedArguments arguments) = arguments := by
  rw [splitCommandLine, afterProgram_append program.whole]
  induction arguments with
  | nil => rfl
  | cons text arguments ih =>
    exact (splitArguments_quoteWindowsArgument text).trans (congrArg (text :: ·) ih)

example : ProgramName := ⟨asciiBytes "cmd.exe", by decide⟩

end Heyaki
