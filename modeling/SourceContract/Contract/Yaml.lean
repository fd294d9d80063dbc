import SourceContract.Contract.Shape
import SourceContract.Yaml.Read

/-!
# Contracts as YAML texts
-/

namespace SourceContract.Contract

open Matching (MatchMode)

def yamlDialect : Dialect Yaml.Spot Yaml.Fault where
  text := Yaml.Spot.text
  optionalText := Yaml.Spot.optionalText
  flag := Yaml.Spot.flag
  matchMode := Yaml.Spot.choice MatchMode.names
  list := Yaml.Spot.list
  record := Yaml.Spot.record
  entries := Yaml.Spot.entries
  value := Yaml.Spot.value

def ofYaml : String → Except Yaml.Fault Contract := Yaml.ofText yamlDialect.contract

end SourceContract.Contract
