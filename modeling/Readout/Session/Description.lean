/-
  A session in one line, for people who look into a program.
-/
import Readout.Session.Basic

namespace Readout.Session

/-- The character inside a quoted text: quotes, backslashes and control characters are escaped. -/
def describeChar (c : Char) : Text :=
  match c with
  | '"' => "\\\"".toList
  | '\\' => "\\\\".toList
  | '\t' => "\\t".toList
  | '\n' => "\\n".toList
  | '\r' => "\\r".toList
  | '\x00' => "\\0".toList
  | c =>
    if c.toNat < 32 || (127 ≤ c.toNat && c.toNat < 160) then
      "\\u\x7b".toList ++ Nat.toDigits 16 c.toNat ++ "\x7d".toList
    else [c]

/-- A quoted text. -/
def describeText (t : Text) : Text := '"' :: t.flatMap describeChar ++ ['"']

/-- The directories in brackets. -/
def describePaths (ps : List Path) : Text :=
  '[' :: Text.joinWith ", ".toList (ps.map describeText) ++ [']']

/-- The session in one line. -/
def describe (s : Session) : Text :=
  "OutputParser \x7b config: ParserConfig \x7b template_dir: ".toList ++ describeText s.config.templateDir ++
    ", extra_template_dirs: ".toList ++ describePaths s.config.extraDirs ++
    ", index_file: ".toList ++ describeText s.config.indexFile ++
    ", template_cache_size: ".toList ++ Nat.toDigits 10 s.config.cacheSize ++
    " \x7d, loaded: ".toList ++ (if s.registry.isSome then "true".toList else "false".toList) ++
    ", .. \x7d".toList

end Readout.Session
