import LiveNotebooks.ErrorPage

/-!
# Reading the error page

The page of a failed conversion is Markdown.  A client that knows no more than how Markdown
fences code finds the message in it again, letter by letter.

**Reading.**  A line of at least three backticks opens a block of code.  The first later line
that has at least as many backticks, behind at most three spaces and with nothing but blanks
behind them, closes it.  `Markdown.scan` goes through the lines and looks for nothing else.

**Invariant.**  A line of the message that closed the block would have a run of backticks as
long as the fence, but `fence` is longer than all runs of the message.

**Results.**
* `le_longestRun_of_infix`: no run of backticks is longer than the longest one.
* `parts_source`: what is read of the cell.
* `contents_read_back`: the page shows the message and nothing else.
-/

namespace LiveNotebooks

/-! ## Markdown -/

namespace Markdown

def lines (text : String) : List (List Char) := text.toList.splitOn '\n'

/-- Is the character a backtick? -/
def isTick (c : Char) : Bool := c = ErrorPage.backtick

/-- Is the character a space or a tab? -/
def isGap (c : Char) : Bool := c = ' ' || c = '\t'

/-- The number of backticks in a line that opens a block. -/
def opening? (line : List Char) : Option Nat :=
  if 3 ≤ line.length && line.all isTick then some line.length else none

/-- Does the line close a block that so many backticks have opened? -/
def closes (ticks : Nat) (line : List Char) : Bool :=
  let body := line.dropWhile (· = ' ')
  (line.takeWhile (· = ' ')).length ≤ 3 && ticks ≤ (body.takeWhile isTick).length
    && (body.dropWhile isTick).all isGap

/-- A part of a text. -/
inductive Part where
  | line (text : List Char)
  /-- A block of code, opened by so many backticks. -/
  | code (ticks : Nat) (content : List (List Char)) (isClosed : Bool)
  deriving DecidableEq

/-- The parts of some lines.  `block` is the block that is open, if one is: the number of its
backticks, and its lines so far, newest first. -/
def scan : Option (Nat × List (List Char)) → List (List Char) → List Part
  | none, [] => []
  | none, line :: rest =>
      match opening? line with
      | some ticks => scan (some (ticks, [])) rest
      | none => .line line :: scan none rest
  | some (ticks, content), [] => [.code ticks content.reverse false]
  | some (ticks, content), line :: rest =>
      if closes ticks line then .code ticks content.reverse true :: scan none rest
      else scan (some (ticks, line :: content)) rest

/-- The parts of a text. -/
def parts (text : String) : List Part := scan none (lines text)

/-- The text of a block of code. -/
def Part.code? : Part → Option String
  | .code _ content true => some (String.ofList (['\n'].intercalate content))
  | _ => none

theorem joined_lines
    (text : String) :
    String.ofList (['\n'].intercalate (lines text)) = text := by
  rw [lines, List.intercalate_splitOn, String.ofList_toList]

/-- A text stands in what it is joined into. -/
theorem infix_intercalate
    {sep part : List Char}
    {texts : List (List Char)}
    (h : part ∈ texts) :
    part <:+: sep.intercalate texts := by
  induction texts with
  | nil => cases h
  | cons first rest ih =>
      cases rest with
      | nil =>
          obtain rfl := List.mem_singleton.1 h
          simp
      | cons second others =>
          have hsplit : sep.intercalate (first :: second :: others)
              = first ++ (sep ++ sep.intercalate (second :: others)) := by
            simp [List.intercalate]
          rw [hsplit]
          rcases List.mem_cons.1 h with rfl | hrest
          · exact (List.prefix_append part _).isInfix
          · have hlater := ih hrest
            have hsuffix := List.suffix_append (first ++ sep)
              (sep.intercalate (second :: others))
            rw [List.append_assoc] at hsuffix
            exact hlater.trans hsuffix.isInfix

/-- A line is a piece of the text. -/
theorem infix_of_mem_lines
    {text : String}
    {line : List Char}
    (h : line ∈ lines text) :
    line <:+: text.toList := by
  have hpiece : line <:+: ['\n'].intercalate (lines text) := infix_intercalate h
  rwa [lines, List.intercalate_splitOn] at hpiece

/-- A line that closes a block has the backticks for it. -/
theorem infix_of_closes
    {ticks : Nat}
    {line : List Char}
    (h : closes ticks line = true) :
    List.replicate ticks ErrorPage.backtick <:+: line := by
  simp only [closes, Bool.and_eq_true, decide_eq_true_eq] at h
  obtain ⟨⟨_, hticks⟩, _⟩ := h
  have hrun : (line.dropWhile (· = ' ')).takeWhile isTick
      = List.replicate ((line.dropWhile (· = ' ')).takeWhile isTick).length
        ErrorPage.backtick := by
    refine List.eq_replicate_iff.2 ⟨rfl, fun c hc => ?_⟩
    simpa [isTick] using List.all_eq_true.1 List.all_takeWhile c hc
  have hshort : List.replicate ticks ErrorPage.backtick
      <+: (line.dropWhile (· = ' ')).takeWhile isTick := by
    have htake := List.take_prefix ticks ((line.dropWhile (· = ' ')).takeWhile isTick)
    rw [hrun, List.take_replicate, Nat.min_eq_left hticks] at htake
    rw [hrun]
    exact htake
  exact (hshort.trans (List.takeWhile_prefix _)).isInfix.trans
    (List.dropWhile_suffix _).isInfix

/-- A block goes as far as no line closes it. -/
theorem scan_block
    {ticks : Nat}
    {content : List (List Char)}
    {closing : List Char}
    (hopen : ∀ line ∈ content, closes ticks line = false)
    (hclosing : closes ticks closing = true)
    (before rest : List (List Char)) :
    scan (some (ticks, before)) (content ++ closing :: rest)
      = .code ticks (before.reverse ++ content) true :: scan none rest := by
  induction content generalizing before with
  | nil => simp [scan, hclosing]
  | cons line others ih =>
      have hline := hopen line List.mem_cons_self
      have hothers := ih (fun l hl => hopen l (List.mem_cons_of_mem line hl)) (line :: before)
      simp only [List.cons_append, scan, hline, Bool.false_eq_true, if_false, hothers]
      simp

end Markdown

namespace ErrorPage

/-! ## The fence -/

theorem le_longestRunFrom
    (text : List Char)
    (current longest : Nat) :
    longest ≤ longestRunFrom text current longest := by
  induction text generalizing current longest with
  | nil => exact Nat.le_refl longest
  | cons c rest ih =>
      simp only [longestRunFrom]
      split
      · exact Nat.le_trans (Nat.le_max_left longest (current + 1)) (ih _ _)
      · exact ih 0 longest

theorem add_le_longestRunFrom
    (rest : List Char)
    (n : Nat)
    {current longest : Nat}
    (h : current ≤ longest) :
    current + n ≤ longestRunFrom (List.replicate n backtick ++ rest) current longest := by
  induction n generalizing current longest with
  | zero => exact Nat.le_trans h (le_longestRunFrom rest current longest)
  | succ n ih =>
      have hnext := ih (Nat.le_max_right longest (current + 1))
      simp only [List.replicate_succ, List.cons_append, longestRunFrom, if_true]
      omega

/-- Wherever a run of backticks stands, the search has seen no less before it than it counts. -/
theorem le_longestRunFrom_append
    (before rest : List Char)
    (n : Nat)
    {current longest : Nat}
    (h : current ≤ longest) :
    n ≤ longestRunFrom (before ++ (List.replicate n backtick ++ rest)) current longest := by
  induction before generalizing current longest with
  | nil =>
      have hrun := add_le_longestRunFrom rest n h
      simp only [List.nil_append]
      omega
  | cons c others ih =>
      simp only [List.cons_append, longestRunFrom]
      split
      · exact ih (Nat.le_max_right longest (current + 1))
      · exact ih (Nat.zero_le longest)

/-- No run of backticks is longer than the longest one. -/
theorem le_longestRun_of_infix
    {n : Nat}
    {text : List Char}
    (h : List.replicate n backtick <:+: text) :
    n ≤ longestRun text := by
  obtain ⟨before, rest, rfl⟩ := h
  rw [List.append_assoc]
  exact le_longestRunFrom_append before rest n (Nat.le_refl 0)

/-- The number of backticks in the fence around a message. -/
def fenceLength (message : String) : Nat := max (longestRun message.toList) 2 + 1

theorem toList_fence
    (message : String) :
    (fence message).toList = List.replicate (fenceLength message) backtick := by
  simp [fence, fenceLength]

theorem three_le_fenceLength
    (message : String) :
    3 ≤ fenceLength message := by
  have htwo := Nat.le_max_right (longestRun message.toList) 2
  unfold fenceLength
  omega

open Markdown

/-- No line of a message closes the block around it. -/
theorem closes_line
    {message : String}
    {line : List Char}
    (h : line ∈ lines message) :
    closes (fenceLength message) line = false := by
  rw [Bool.eq_false_iff]
  intro hcloses
  have hrun := le_longestRun_of_infix ((infix_of_closes hcloses).trans (infix_of_mem_lines h))
  have hlonger := Nat.le_max_left (longestRun message.toList) 2
  unfold fenceLength at hrun
  omega

theorem opening?_fence
    (n : Nat)
    (h : 3 ≤ n) :
    opening? (List.replicate n backtick) = some n := by
  simp [opening?, isTick, h]

theorem closes_fence
    (n : Nat)
    (h : 0 < n) :
    closes n (List.replicate n backtick) = true := by
  obtain ⟨m, rfl⟩ := Nat.exists_eq_succ_of_ne_zero (Nat.ne_of_gt h)
  have hspace : (backtick = ' ') = False := by decide
  have hindent : (List.replicate (m + 1) backtick).dropWhile (· = ' ')
      = List.replicate (m + 1) backtick := by
    simp [List.replicate_succ, hspace]
  simp [closes, hindent, isTick, hspace]

/-! ## The page -/

/-- The lines of the cell: the heading, a blank line, and the message between two fences. -/
theorem lines_source
    (message : String) :
    lines (source message)
      = heading.toList :: [] :: List.replicate (fenceLength message) backtick
        :: (lines message ++ [List.replicate (fenceLength message) backtick]) := by
  have hheading : '\n' ∉ heading.toList := by decide
  have hfence : '\n' ∉ List.replicate (fenceLength message) backtick := by
    intro h
    exact absurd (List.eq_of_mem_replicate h) (by decide)
  have htext : (source message).toList
      = heading.toList ++ '\n' :: ([] ++ '\n' :: (List.replicate (fenceLength message) backtick
        ++ '\n' :: (message.toList
          ++ '\n' :: List.replicate (fenceLength message) backtick))) := by
    simp [source, toList_fence]
  rw [lines, htext, List.splitOn_append_cons_self_of_not_mem hheading,
    List.splitOn_append_cons_self_of_not_mem (by simp),
    List.splitOn_append_cons_self_of_not_mem hfence, List.splitOn_append_cons_self,
    List.splitOn_eq_singleton hfence, lines]

/-- What is read of the cell: the heading, an empty line, and a block with the message. -/
theorem parts_source
    (message : String) :
    parts (source message)
      = [.line heading.toList, .line [], .code (fenceLength message) (lines message) true] := by
  have hthree := three_le_fenceLength message
  have hopen : ∀ line ∈ lines message, closes (fenceLength message) line = false :=
    fun line => closes_line
  have hblock := scan_block hopen (closes_fence (fenceLength message) (by omega)) [] []
  have hheading : opening? heading.toList = none := by decide
  have hempty : opening? [] = none := rfl
  simp only [parts, lines_source, scan, hheading, hempty, opening?_fence _ hthree, hblock]
  rfl

end ErrorPage

/-! ## Reading pages -/

def Json.Value.items? : Json.Value → Option (List Json.Value)
  | .array items => some items
  | _ => none

def Json.Value.string? : Json.Value → Option String
  | .text s => some s
  | _ => none

namespace ErrorPage

open Markdown

/-- The pages of contents, each with its cells. -/
def pages? (contents : Json.Value) : Option (List (List Json.Value)) :=
  ((contents.member? "cells").bind Json.Value.items?).bind fun pages =>
    pages.mapM Json.Value.items?

/-- The text of a cell with Markdown. -/
def markdown? (cell : Json.Value) : Option String :=
  if (cell.member? "cell_type").bind Json.Value.string? = some "markdown" then
    (cell.member? "source").bind Json.Value.string?
  else none

/-- The text of the only cell of the only page. -/
def onlyText? (contents : Json.Value) : Option String :=
  match pages? contents with
  | some [[cell]] => markdown? cell
  | _ => none

/-- The code behind a heading and an empty line, with nothing behind it. -/
def message? (contents : Json.Value) : Option String :=
  match (onlyText? contents).map parts with
  | some [.line _, .line [], block] => block.code?
  | _ => none

theorem onlyText?_contents
    (message : String) :
    onlyText? (contents message) = some (source message) :=
  rfl

theorem message?_contents
    (message : String) :
    message? (contents message) = some message := by
  have hcode : (Part.code (fenceLength message) (lines message) true).code? = some message :=
    congrArg some (joined_lines message)
  simp only [message?, onlyText?_contents, Option.map_some, parts_source, hcode]

/-- The message stands in the text as it is. -/
theorem infix_source
    (message : String) :
    message.toList <:+: (source message).toList := by
  refine ⟨(heading ++ "\n\n" ++ fence message ++ "\n").toList,
    ("\n" ++ fence message).toList, ?_⟩
  simp [source]

/-- **The message can be read back.**  The page of a message has one cell, and that is
Markdown: the heading, an empty line, and a block of code that ends with the text.  The lines
of the block are those of the message, which stands in the text as it is; none of them closes
the block.  So the page tells the message. -/
theorem contents_read_back :
    (∀ message : String,
      onlyText? (contents message) = some (source message)
        ∧ parts (source message)
          = [.line heading.toList, .line [], .code (fenceLength message) (lines message) true]
        ∧ (∀ line ∈ lines message, closes (fenceLength message) line = false)
        ∧ String.ofList (['\n'].intercalate (lines message)) = message
        ∧ message.toList <:+: (source message).toList
        ∧ message? (contents message) = some message)
      ∧ ∀ first second : String, contents first = contents second → first = second := by
  constructor
  · intro message
    exact ⟨onlyText?_contents message, parts_source message, fun line => closes_line,
      joined_lines message, infix_source message, message?_contents message⟩
  · intro first second h
    have hread := congrArg message? h
    rw [message?_contents, message?_contents] at hread
    exact Option.some.inj hread

/-- Backticks at both ends, and a line that would close a shorter fence. -/
example : parts (source "\x60\x60\x60\x60\n\x60\x60\x60")
    = [.line heading.toList, .line [],
      .code 5 [List.replicate 4 backtick, List.replicate 3 backtick] true] := by
  decide +kernel

end ErrorPage
end LiveNotebooks
