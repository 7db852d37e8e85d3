import LivingDoc.Gherkin.StepWords

namespace LivingDoc

structure Vocabulary where
  language : String
  words : Gherkin.StepWords
deriving DecidableEq

namespace Vocabulary

def english : Vocabulary where
  language := "en"
  words :=
    { context := ["*", "Given"]
      action := ["*", "When"]
      outcome := ["*", "Then"]
      conjunction := ["*", "And"]
      contrast := ["*", "But"] }

def german : Vocabulary where
  language := "de"
  words :=
    { context := ["*", "Angenommen", "Gegeben sei", "Gegeben seien"]
      action := ["*", "Wenn"]
      outcome := ["*", "Dann"]
      conjunction := ["*", "Und"]
      contrast := ["*", "Aber"] }

def spanish : Vocabulary where
  language := "es"
  words :=
    { context := ["*", "Dado", "Dada", "Dados", "Dadas"]
      action := ["*", "Cuando"]
      outcome := ["*", "Entonces"]
      conjunction := ["*", "Y", "E"]
      contrast := ["*", "Pero"] }

def french : Vocabulary where
  language := "fr"
  words :=
    { context := ["*", "Soit", "Sachant que", "Sachant qu'", "Sachant", "Etant donné que",
        "Etant donné qu'", "Etant donné", "Etant donnée", "Etant donnés", "Etant données",
        "Étant donné que", "Étant donné qu'", "Étant donné", "Étant donnée", "Étant donnés",
        "Étant données"]
      action := ["*", "Quand", "Lorsque", "Lorsqu'"]
      outcome := ["*", "Alors", "Donc"]
      conjunction := ["*", "Et que", "Et qu'", "Et"]
      contrast := ["*", "Mais que", "Mais qu'", "Mais"] }

def dutch : Vocabulary where
  language := "nl"
  words :=
    { context := ["*", "Gegeven", "Stel"]
      action := ["*", "Als", "Wanneer"]
      outcome := ["*", "Dan"]
      conjunction := ["*", "En"]
      contrast := ["*", "Maar"] }

def all : List Vocabulary := [english, german, spanish, french, dutch]

/-- The vocabulary of a language code, in any case and with white space around it. -/
def find? (code : String) : Option Vocabulary :=
  all.find? fun v ↦ Text.sameFold v.language (Text.trimmed code)

def ofLanguage (code : String) : Vocabulary := (find? code).getD english

end Vocabulary

end LivingDoc
