/-!
# Texts without commands to a terminal

A terminal takes some characters as commands: the control characters, and whole sequences of
characters that start with an escape.  A text from outside that is shown again is shown without
them, so that it cannot do more than be read.

Of the control characters only those remain that stand between words: the space, the tab, the line
feed, the form feed and the carriage return.  One of them ends a sequence early, unless the sequence
holds a text of its own.  A terminal takes a text byte by byte, and one byte of characters beyond
ASCII can be the end of a text that nobody sees.

* `TerminalMode`, `TerminalMode.next` — what a terminal takes the next character for.
* `plain` — a text without commands.
-/

set_option autoImplicit false

namespace PageCensus

/-- What a terminal takes the next character for. -/
inductive TerminalMode where
  /-- Something to show. -/
  | showing
  /-- The character behind an escape. -/
  | escape
  /-- What an escape sequence ends with, after some of its middle. -/
  | escapeMiddle
  /-- A part of a sequence with parameters. -/
  | parameters
  /-- The front of a text for a device. -/
  | deviceFront
  /-- A parameter in front of a text for a device. -/
  | deviceParameters
  /-- What stands between these parameters and the text. -/
  | deviceMiddle
  /-- A part of a text that nobody sees. -/
  | hiddenText
  /-- A part of a text for the title, which a bell may end. -/
  | titleText
deriving DecidableEq, Repr

namespace TerminalMode

/-- Whether a character of a command is shown all the same, and ends the command. -/
def isSpacing (c : Char) : Bool := [' ', '\t', '\n', '\x0c', '\r'].contains c

/-- Whether a character beyond ASCII holds the byte that ends a text that nobody sees. -/
def holdsEnd (c : Char) : Bool := ((String.utf8EncodeChar c).drop 1).contains 0x9C

/-- What the character after `c` is taken for, if `c` ends no command at once. -/
def continued (mode : TerminalMode) (c : Char) : TerminalMode :=
  match mode with
  | showing => showing
  | escape =>
    if c = '[' then parameters
    else if c = ']' then titleText
    else if c = 'P' then deviceFront
    else if ['X', '^', '_'].contains c then hiddenText
    else if c.toNat < 0x20 then (if isSpacing c then showing else escape)
    else if c.toNat < 0x30 then escapeMiddle
    else if 0x7F ≤ c.toNat then escape else showing
  | escapeMiddle =>
    if c.toNat < 0x20 then (if isSpacing c then showing else escapeMiddle)
    else if c.toNat < 0x30 ∨ 0x7F ≤ c.toNat then escapeMiddle else showing
  | parameters =>
    if c.toNat < 0x20 then (if isSpacing c then showing else parameters)
    else if c.toNat < 0x40 ∨ 0x7F ≤ c.toNat then parameters else showing
  | deviceFront | deviceParameters | deviceMiddle =>
    if c.toNat < 0x20 ∨ 0x7F ≤ c.toNat then mode
    else if c.toNat < 0x30 then deviceMiddle
    else if 0x40 ≤ c.toNat ∨ mode = deviceMiddle then hiddenText
    else if c.toNat < 0x3C ∨ mode = deviceFront then deviceParameters
    else hiddenText
  | hiddenText => if holdsEnd c then showing else hiddenText
  | titleText => if c = '\x07' then showing else titleText

/-- What the character after `c` is taken for. -/
def next (mode : TerminalMode) (c : Char) : TerminalMode :=
  if c = '\x1b' then escape
  else if c = '\x18' ∨ c = '\x1a' then showing
  else mode.continued c

/-- Whether `c` is shown. -/
def shows (mode : TerminalMode) (c : Char) : Bool :=
  match mode with
  | showing => isSpacing c || (0x20 ≤ c.toNat && c != '\x7f')
  | escape | escapeMiddle | parameters => c.toNat < 0x20 && isSpacing c
  | deviceFront | deviceParameters | deviceMiddle | hiddenText | titleText => false

/-- What is shown of a text. -/
def shown (mode : TerminalMode) : List Char → List Char
  | [] => []
  | c :: rest => (if mode.shows c then [c] else []) ++ shown (mode.next c) rest

end TerminalMode

/-- A text without commands to a terminal. -/
def plain (text : String) : String := String.ofList (TerminalMode.shown .showing text.toList)

example : ["a\x07b", "\x1b[31mred\x1b[0m", "\x1bPq\x1b\\z", "\x1b(B7", "\x1b"].map plain =
    ["ab", "red", "z", "7", ""] := by decide

example : ["\x1b[3é1mred", "\x1b]é\x07z", "\x1bP1;2qx\u011cz", "\x1bP1\u011cz"].map plain =
    ["red", "z", "z", ""] := by decide

end PageCensus
