import LivingDoc.Gherkin.Comments
import LivingDoc.Gherkin.Grammar
import LivingDoc.Gherkin.Header
import LivingDoc.Publisher

namespace LivingDoc

inductive Source where
  | file (content : ByteArray)
  | directory
  | nothing

inductive ReadError where
  | notText
  | isDirectory
  | notFound
deriving DecidableEq

inductive SourceError where
  | unreadable (e : ReadError)
  | notGherkin
  | unknownLanguage (code : String)
  | undraftable (e : DraftError)
deriving DecidableEq

namespace ReadError

def message : ReadError → String
  | notText => "stream did not contain valid UTF-8"
  | isDirectory => "Is a directory (os error 21)"
  | notFound => "No such file or directory (os error 2)"

end ReadError

namespace SourceError

def message? : SourceError → Option String
  | unreadable e => some ("failed to read feature file: " ++ e.message)
  | notGherkin => none
  | unknownLanguage code => some ("unsupported feature language: " ++ code)
  | undraftable e => some e.message

end SourceError

namespace Gherkin.Document

/-- The document that a text stands for. The comments are found apart from the feature, as a parser
passes over them. -/
def parse (s : String) (g : Parser := Grammar.parser) : Except SourceError Document :=
  let l := Text.endLine s.toList
  let header := Header.ofText? l
  let code := header.map Header.code
  match code.filter (!g.knows ·) with
  | some code => .error (.unknownLanguage code)
  | none =>
    match g.parse? code l with
    | none => .error .notGherkin
    | some f => .ok
      { feature := f.toFeature code
        comments := Comment.ofText (header.map Header.line) l }

end Gherkin.Document

namespace Source

def text : Source → Except SourceError String
  | file content =>
    match String.fromUTF8? content with
    | some s => .ok s
    | none => .error (.unreadable .notText)
  | directory => .error (.unreadable .isDirectory)
  | nothing => .error (.unreadable .notFound)

def document (s : Source) (g : Gherkin.Parser := Gherkin.Grammar.parser) :
    Except SourceError Gherkin.Document :=
  s.text >>= (Gherkin.Document.parse · g)

end Source

namespace Publisher

variable (p : Publisher)

def publishText (s : String) (g : Gherkin.Parser := Gherkin.Grammar.parser) :
    Except SourceError Edition := do
  let doc ← Gherkin.Document.parse s g
  (p.publish doc).mapError .undraftable

def publishSource (s : Source) (g : Gherkin.Parser := Gherkin.Grammar.parser) :
    Except SourceError Edition :=
  s.text >>= (p.publishText · g)

end Publisher

end LivingDoc
