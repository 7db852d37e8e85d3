import LivingDoc.Gherkin.StepWords

namespace LivingDoc.Gherkin

/-- The words that open the parts of a feature file in one spoken language. -/
structure Dialect where
  code : String
  feature : List String
  background : List String
  rule : List String
  scenario : List String
  outline : List String
  examples : List String
  steps : StepWords

namespace Dialect

def english : Dialect where
  code := "en"
  feature := ["Feature", "Business Need", "Ability"]
  background := ["Background"]
  rule := ["Rule"]
  scenario := ["Example", "Scenario"]
  outline := ["Scenario Outline", "Scenario Template"]
  examples := ["Examples", "Scenarios"]
  steps :=
    { context := ["* ", "Given "]
      action := ["* ", "When "]
      outcome := ["* ", "Then "]
      conjunction := ["* ", "And "]
      contrast := ["* ", "But "] }

def german : Dialect where
  code := "de"
  feature := ["Funktionalität", "Funktion"]
  background := ["Grundlage", "Hintergrund", "Voraussetzungen", "Vorbedingungen"]
  rule := ["Rule", "Regel"]
  scenario := ["Beispiel", "Szenario"]
  outline := ["Szenariogrundriss", "Szenarien"]
  examples := ["Beispiele"]
  steps :=
    { context := ["* ", "Angenommen ", "Gegeben sei ", "Gegeben seien "]
      action := ["* ", "Wenn "]
      outcome := ["* ", "Dann "]
      conjunction := ["* ", "Und "]
      contrast := ["* ", "Aber "] }

def spanish : Dialect where
  code := "es"
  feature := ["Característica", "Necesidad del negocio", "Requisito"]
  background := ["Antecedentes"]
  rule := ["Regla", "Regla de negocio"]
  scenario := ["Ejemplo", "Escenario"]
  outline := ["Esquema del escenario"]
  examples := ["Ejemplos"]
  steps :=
    { context := ["* ", "Dado ", "Dada ", "Dados ", "Dadas "]
      action := ["* ", "Cuando "]
      outcome := ["* ", "Entonces "]
      conjunction := ["* ", "Y ", "E "]
      contrast := ["* ", "Pero "] }

def french : Dialect where
  code := "fr"
  feature := ["Fonctionnalité"]
  background := ["Contexte"]
  rule := ["Règle"]
  scenario := ["Exemple", "Scénario"]
  outline := ["Plan du scénario", "Plan du Scénario"]
  examples := ["Exemples"]
  steps :=
    { context := ["* ", "Soit ", "Sachant que ", "Sachant qu'", "Sachant ", "Etant donné que ",
        "Etant donné qu'", "Etant donné ", "Etant donnée ", "Etant donnés ", "Etant données ",
        "Étant donné que ", "Étant donné qu'", "Étant donné ", "Étant donnée ", "Étant donnés ",
        "Étant données "]
      action := ["* ", "Quand ", "Lorsque ", "Lorsqu'"]
      outcome := ["* ", "Alors ", "Donc "]
      conjunction := ["* ", "Et que ", "Et qu'", "Et "]
      contrast := ["* ", "Mais que ", "Mais qu'", "Mais "] }

def dutch : Dialect where
  code := "nl"
  feature := ["Functionaliteit"]
  background := ["Achtergrond"]
  rule := ["Rule"]
  scenario := ["Voorbeeld", "Scenario"]
  outline := ["Abstract Scenario"]
  examples := ["Voorbeelden"]
  steps :=
    { context := ["* ", "Gegeven ", "Stel "]
      action := ["* ", "Als ", "Wanneer "]
      outcome := ["* ", "Dan "]
      conjunction := ["* ", "En "]
      contrast := ["* ", "Maar "] }

def italian : Dialect where
  code := "it"
  feature := ["Funzionalità", "Esigenza di Business", "Abilità"]
  background := ["Contesto"]
  rule := ["Regola"]
  scenario := ["Esempio", "Scenario"]
  outline := ["Schema dello scenario"]
  examples := ["Esempi"]
  steps :=
    { context := ["* ", "Dato ", "Data ", "Dati ", "Date "]
      action := ["* ", "Quando "]
      outcome := ["* ", "Allora "]
      conjunction := ["* ", "E "]
      contrast := ["* ", "Ma "] }

def chinese : Dialect where
  code := "zh-CN"
  feature := ["功能"]
  background := ["背景"]
  rule := ["Rule"]
  scenario := ["场景", "剧本"]
  outline := ["场景大纲", "剧本大纲"]
  examples := ["例子"]
  steps :=
    { context := ["* ", "假如", "假设", "假定"]
      action := ["* ", "当"]
      outcome := ["* ", "那么"]
      conjunction := ["* ", "而且", "并且", "同时"]
      contrast := ["* ", "但是"] }

def emoji : Dialect where
  code := "em"
  feature := ["📚"]
  background := ["💤"]
  rule := ["Rule"]
  scenario := ["🥒", "📕"]
  outline := ["📖"]
  examples := ["📓"]
  steps :=
    { context := ["* ", "😐"]
      action := ["* ", "🎬"]
      outcome := ["* ", "🙏"]
      conjunction := ["* ", "😂"]
      contrast := ["* ", "😔"] }

def pirate : Dialect where
  code := "en-pirate"
  feature := ["Ahoy matey!"]
  background := ["Yo-ho-ho"]
  rule := ["Rule"]
  scenario := ["Heave to"]
  outline := ["Shiver me timbers"]
  examples := ["Dead men tell no tales"]
  steps :=
    { context := ["* ", "Gangway! "]
      action := ["* ", "Blimey! "]
      outcome := ["* ", "Let go and haul "]
      conjunction := ["* ", "Aye "]
      contrast := ["* ", "Avast! "] }

def formal : Dialect where
  code := "formal"
  feature := ["Section"]
  background := ["Context"]
  rule := ["Rule"]
  scenario := ["Proof", "Evidence"]
  outline := ["Demonstration"]
  examples := ["Examples"]
  steps :=
    { context := ["Given"]
      action := ["When"]
      outcome := ["Then"]
      conjunction := ["*", "And"]
      contrast := ["But"] }

/-- The dialects of one parser; others may know more of them. -/
def all : List Dialect :=
  [english, german, spanish, french, dutch, italian, chinese, emoji, pirate, formal]

def find? (code : String) : Option Dialect := all.find? (·.code = code)

end Dialect

end LivingDoc.Gherkin
