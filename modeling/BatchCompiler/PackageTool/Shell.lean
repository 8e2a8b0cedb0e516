import BatchCompiler.PackageTool

/-!
# Package tools written as shell commands

A package tool is often a line of shell: it prints some arguments, or the contents of a file, or
fails.  This module gives such lines a meaning: simple commands joined by `;`, `&&`, `||` or line
feeds, quotes, positional parameters, and redirection of one output to the other or to nowhere.

## Main definitions

* `Shell.tokens` — words and operators of a script
* `Shell.run` — a script with its parameters
* `ordinaryTools` — the package tool that knows the shell and a few programs
-/

namespace BatchCompiler.Shell

/-- **A piece of a word**: text, or a parameter; what stands in quotes is never cut at blanks. -/
inductive Piece where
  | text (chars : List Char)
  | parameter (name : Char) (quoted : Bool)
deriving DecidableEq, Repr

/-- **A token** of a script. -/
inductive Token where
  | word (pieces : List Piece)
  | endOfCommand
  | andThen
  | orElse
  /-- Output `channel` goes where the next word says: to a file, or to another channel. -/
  | redirect (channel : Nat) (toChannel : Bool)
deriving DecidableEq, Repr

/-- The quotes that are open. -/
inductive Quotes where
  | none
  | single
  | double
deriving DecidableEq, Repr

/-- A word with one more character. -/
def addChar (word : Option (List Piece)) (c : Char) : Option (List Piece) :=
  match word with
  | some pieces =>
      match pieces.getLast? with
      | some (.text chars) => some (pieces.dropLast ++ [.text (chars ++ [c])])
      | _ => some (pieces ++ [.text [c]])
  | .none => some [.text [c]]

/-- A word with one more piece. -/
def addPiece (word : Option (List Piece)) (p : Piece) : Option (List Piece) :=
  some ((word.getD []) ++ [p])

/-- A word that has come to its end, if there is one. -/
def closeWord (word : Option (List Piece)) : List Token := (word.map Token.word).toList

/-- The channel that a word right before `>` names, and the word if it names none. -/
def channelBefore (word : Option (List Piece)) : Nat × List Token :=
  match word with
  | some [.text ['1']] => (1, [])
  | some [.text ['2']] => (2, [])
  | other => (1, closeWord other)

/-- **Tokens** from a point where `quotes` are open and `word` has been read. -/
def tokensFrom (quotes : Quotes) (word : Option (List Piece)) : List Char → List Token
  | [] => closeWord word
  | c :: rest =>
      match quotes, c, rest with
      | .single, '\x27', rest => tokensFrom .none word rest
      | .single, c, rest => tokensFrom .single (addChar word c) rest
      | .double, '\x22', rest => tokensFrom .none word rest
      | .double, '\\', d :: rest =>
          if d = '$' ∨ d = '\x60' ∨ d = '\x22' ∨ d = '\\' then
            tokensFrom .double (addChar word d) rest
          else tokensFrom .double (addChar (addChar word '\\') d) rest
      | .double, '$', '{' :: d :: '}' :: rest =>
          tokensFrom .double (addPiece word (.parameter d true)) rest
      | .double, '$', d :: rest => tokensFrom .double (addPiece word (.parameter d true)) rest
      | .double, c, rest => tokensFrom .double (addChar word c) rest
      | .none, '\x27', rest => tokensFrom .single (addPiece word (.text [])) rest
      | .none, '\x22', rest => tokensFrom .double (addPiece word (.text [])) rest
      | .none, '\\', d :: rest => tokensFrom .none (addChar word d) rest
      | .none, '$', '{' :: d :: '}' :: rest =>
          tokensFrom .none (addPiece word (.parameter d false)) rest
      | .none, '$', d :: rest => tokensFrom .none (addPiece word (.parameter d false)) rest
      | .none, ' ', rest => closeWord word ++ tokensFrom .none .none rest
      | .none, '\t', rest => closeWord word ++ tokensFrom .none .none rest
      | .none, '\n', rest => closeWord word ++ .endOfCommand :: tokensFrom .none .none rest
      | .none, ';', rest => closeWord word ++ .endOfCommand :: tokensFrom .none .none rest
      | .none, '&', '&' :: rest => closeWord word ++ .andThen :: tokensFrom .none .none rest
      | .none, '|', '|' :: rest => closeWord word ++ .orElse :: tokensFrom .none .none rest
      | .none, '>', '&' :: rest =>
          (channelBefore word).2 ++ .redirect (channelBefore word).1 true ::
            tokensFrom .none .none rest
      | .none, '>', rest =>
          (channelBefore word).2 ++ .redirect (channelBefore word).1 false ::
            tokensFrom .none .none rest
      | .none, c, rest => tokensFrom .none (addChar word c) rest

/-- **The tokens of a script.** -/
def tokens (script : String) : List Token := tokensFrom .none .none script.toList

/-- **A simple command**: words, redirections, and how it hangs on the one before. -/
structure Command where
  /-- The token before the command. -/
  joint : Token := .endOfCommand
  words : List (List Piece) := []
  /-- Channels and the words they are redirected to. -/
  redirections : List (Nat × Bool × List Piece) := []

/-- Commands of a token list, with `open_` the command so far. -/
def commandsFrom (open_ : Command) : List Token → List Command
  | [] => [open_]
  | .redirect channel toChannel :: .word w :: rest =>
      commandsFrom { open_ with
        redirections := open_.redirections ++ [(channel, toChannel, w)] } rest
  | .word w :: rest => commandsFrom { open_ with words := open_.words ++ [w] } rest
  | joint :: rest => open_ :: commandsFrom { joint } rest

/-- **A shell between two commands.** -/
structure State where
  /-- The script's name and its parameters. -/
  parameters : List String
  status : Nat := 0
  output : List UInt8 := []
  problems : List UInt8 := []
  ended : Bool := false

/-- The values of a parameter; only `@` and `*` can have more or less than one. -/
def State.values (s : State) (name : Char) : List String :=
  if name = '@' ∨ name = '*' then s.parameters.drop 1
  else if name = '#' then [toString (s.parameters.length - 1)]
  else if name = '?' then [toString s.status]
  else if name.isDigit then [(s.parameters[name.toNat - '0'.toNat]?).getD ""]
  else [""]

/-- Fields with a text added to the last one. -/
def appendText (fields : List (List Char)) (text : List Char) : List (List Char) :=
  match fields.getLast? with
  | some last => fields.dropLast ++ [last ++ text]
  | none => [text]

/-- **The fields of a word**: a quoted `$@` gives one field a parameter, an unquoted parameter is cut
at blanks. -/
def State.fields (s : State) (fields : List (List Char)) : List Piece → List (List Char)
  | [] => fields
  | .text chars :: rest => s.fields (appendText fields chars) rest
  | .parameter name quoted :: rest =>
      let found :=
        if quoted then
          if name = '*' then [" ".intercalate (s.values name)] else s.values name
        else (s.values name).flatMap Text.words
      match found with
      | [] => s.fields fields rest
      | first :: more =>
          s.fields (appendText fields first.toList ++ more.map String.toList) rest

/-- The arguments that words stand for. -/
def State.arguments (s : State) (words : List (List Piece)) : List String :=
  (words.flatMap (s.fields [])).map String.ofList

/-- Value of up to `count` octal digits, and the rest. -/
def octal (count value : Nat) : List Char → Nat × List Char
  | [] => (value, [])
  | c :: rest =>
      match count with
      | 0 => (value, c :: rest)
      | count + 1 =>
          if '0' ≤ c ∧ c ≤ '7' then octal count (value * 8 + (c.toNat - '0'.toNat)) rest
          else (value, c :: rest)

/-- **Backslash escapes** of printed text, as bytes.  The second part is `false` when printing is to
stop there. -/
def escapedBytes (fuel : Nat) (cs : List Char) : List UInt8 × Bool :=
  match fuel, cs with
  | 0, _ => ([], true)
  | _, [] => ([], true)
  | fuel + 1, '\\' :: c :: rest =>
      let byte? : Option UInt8 := match c with
        | 'a' => some 7
        | 'b' => some 8
        | 'f' => some 12
        | 'n' => some 10
        | 'r' => some 13
        | 't' => some 9
        | 'v' => some 11
        | '\\' => some 92
        | _ => none
      match byte? with
      | some byte =>
          let (more, go) := escapedBytes fuel rest
          (byte :: more, go)
      | none =>
          if c = 'c' then ([], false)
          else if '0' ≤ c ∧ c ≤ '7' then
            let (value, rest) := octal 3 0 (c :: rest)
            let (more, go) := escapedBytes fuel rest
            (UInt8.ofNat value :: more, go)
          else
            let (more, go) := escapedBytes fuel (c :: rest)
            (92 :: more, go)
  | fuel + 1, c :: rest =>
      let (more, go) := escapedBytes fuel rest
      (String.utf8EncodeChar c ++ more, go)

/-- The arguments of a command that prints them, and whether a first `-n` asks for no line feed. -/
def printedArguments : List String → Bool × List String
  | "-n" :: rest => (true, rest)
  | args => (false, args)

/-- **Print arguments** with blanks between them and a line feed behind; escapes are read. -/
def echoBytes (args : List String) : List UInt8 :=
  let (quiet, args) := printedArguments args
  let text := (" ".intercalate args).toList
  let (bytes, go) := escapedBytes (text.length + 1) text
  bytes ++ if quiet || !go then [] else [10]

/-- Print arguments as they are. -/
def plainEchoBytes (args : List String) : List UInt8 :=
  let (quiet, args) := printedArguments args
  Text.Utf8.encode (" ".intercalate args) ++ if quiet then [] else [10]

/-- One pass over a format: its bytes and the arguments left over. -/
def formatOnce (fuel : Nat) (cs : List Char) (args : List String) : List UInt8 × List String :=
  match fuel, cs with
  | 0, _ => ([], args)
  | _, [] => ([], args)
  | fuel + 1, '%' :: '%' :: rest =>
      let (more, left) := formatOnce fuel rest args
      (37 :: more, left)
  | fuel + 1, '%' :: _ :: rest =>
      let (more, left) := formatOnce fuel rest args.tail
      (Text.Utf8.encode (args.headD "") ++ more, left)
  | fuel + 1, '\\' :: c :: rest =>
      let here := if '0' ≤ c ∧ c ≤ '7' then (c :: rest).takeWhile (fun d => '0' ≤ d ∧ d ≤ '7')
        else [c]
      let here := here.take 3
      let (bytes, _) := escapedBytes 5 ('\\' :: here)
      let (more, left) := formatOnce fuel ((c :: rest).drop here.length) args
      (bytes ++ more, left)
  | fuel + 1, c :: rest =>
      let (more, left) := formatOnce fuel rest args
      (String.utf8EncodeChar c ++ more, left)

/-- **Print by a format**, which is used again while it takes arguments and some are left. -/
def formatBytes (turns : Nat) (format : List Char) (args : List String) : List UInt8 :=
  match turns with
  | 0 => []
  | turns + 1 =>
      let (bytes, left) := formatOnce (format.length + 1) format args
      bytes ++ if left.isEmpty || left.length = args.length then []
        else formatBytes turns format left

/-- The bytes of files, and what is said about those that cannot be read. -/
def concatenate (fs : FileSystem) : List String → List UInt8 × List UInt8 × Nat
  | [] => ([], [], 0)
  | file :: rest =>
      let (output, problems, status) := concatenate fs rest
      match fs.read ⟨file⟩ with
      | .ok bytes => (bytes ++ output, problems, status)
      | .error fault =>
          let reason := ((Text.pieces (· = '(') fault.message).headD "")
          (output, Text.Utf8.encode ("cat: " ++ file ++ ": " ++ Text.trimEnd reason ++ "\n") ++
            problems, 1)

/-- The largest number that a script can end with; of it the last eight bits count. -/
def exitLimit : Nat := 0x7fffffff

/-- **What a command does**: output, problems, status, and whether the shell ends with it. -/
def perform (fs : FileSystem) (s : State) : List String → List UInt8 × List UInt8 × Nat × Bool
  | [] => ([], [], s.status, false)
  | "true" :: _ => ([], [], 0, false)
  | ":" :: _ => ([], [], 0, false)
  | "false" :: _ => ([], [], 1, false)
  | "exit" :: rest =>
      ([], [], ((rest.head?.bind (Text.natural? exitLimit)).getD s.status) % 256, true)
  | "echo" :: args => (echoBytes args, [], 0, false)
  | "printf" :: format :: args =>
      (formatBytes (args.length + 1) format.toList args, [], 0, false)
  | "cat" :: files =>
      let (output, problems, status) := concatenate fs files
      (output, problems, status, false)
  | name :: _ =>
      ([], Text.Utf8.encode ((s.parameters.headD "sh") ++ ": 1: " ++ name ++ ": not found\n"), 127,
        false)

/-- Where channel one and channel two go after redirections: to a channel, or nowhere. -/
def channels (s : State) : List (Nat × Bool × List Piece) → Nat × Nat → Nat × Nat
  | [], c => c
  | (channel, toChannel, w) :: rest, (one, two) =>
      let target := (s.arguments [w]).headD ""
      let place :=
        if !toChannel then 0 else if target = "1" then one else if target = "2" then two else 0
      channels s rest (if channel = 1 then (place, two) else (one, place))

/-- The script goes on with a command. -/
def State.goesOn (s : State) (joint : Token) : Bool :=
  !s.ended && match joint with
    | .andThen => s.status = 0
    | .orElse => s.status ≠ 0
    | _ => true

/-- **Run one command.** -/
def step (fs : FileSystem) (s : State) (c : Command) : State :=
  if !s.goesOn c.joint then s
  else
    let (output, problems, status, ends) := perform fs s (s.arguments c.words)
    let (one, two) := channels s c.redirections (1, 2)
    let sent (place : Nat) : List UInt8 :=
      (if one = place then output else []) ++ if two = place then problems else []
    { s with
      status, ended := ends
      output := s.output ++ sent 1
      problems := s.problems ++ sent 2 }

/-- **Run a script** with its name and parameters. -/
def run (fs : FileSystem) (script : String) (parameters : List String) : State :=
  (commandsFrom {} (tokens script)).foldl (step fs) { parameters }

end Shell

namespace PackageTool

/-- A run that has come to an end. -/
def ofState (s : Shell.State) : ToolRun :=
  .ended (s.status = 0) s.output (Text.Utf8.decode s.problems)

/-- A known program, by its name or by where it is installed. -/
def installedName? (program : Path) : Option String :=
  let known := ["sh", "echo", "true", "false", "cat", "printf"]
  known.find? fun name =>
    program.text = name || program.text = "/bin/" ++ name || program.text = "/usr/bin/" ++ name

/-- Why a program that is not installed cannot be started: files have no permission to run. -/
def startFault (fs : FileSystem) (program : Path) : Fault :=
  if program.text.toList.contains '/' then
    match fs.lookup program with
    | .ok _ => .permissionDenied
    | .error fault => fault
  else .notFound

/-- A text that cannot be handed to a program, because a zero character ends texts there. -/
def holdsZero (s : String) : Bool := s.toList.contains '\x00'

/-- **The shell and a few programs**, on a file system. -/
def ordinaryTools (fs : FileSystem) : PackageTool := fun program args =>
  if holdsZero program.text || args.any holdsZero then
    .notStarted (.because "nul byte found in provided data")
  else
    match installedName? program with
    | some "sh" =>
        match args with
        | "-c" :: script :: parameters => ofState (Shell.run fs script parameters)
        | _ => .ended true [] ""
    | some "echo" => .ended true (Shell.plainEchoBytes args) ""
    | some name =>
        let (output, problems, status, _) := Shell.perform fs { parameters := [] } (name :: args)
        .ended (status = 0) output (Text.Utf8.decode problems)
    | none => .notStarted (startFault fs program)

end PackageTool

end BatchCompiler
