import Armory.Host
import Armory.Json.Lenient
import Armory.Settings.Load
import Armory.Text.Digits

/-! Scenarios written as JSON: the surroundings of a program, and what is asked of its settings. -/
namespace Armory.Scenario

/-- The bytes that pairs of hexadecimal digits spell. -/
def bytesOf : List Char → List UInt8
  | a :: b :: rest =>
    UInt8.ofNat ((Text.hexValue? a).getD 0 * 16 + (Text.hexValue? b).getD 0) :: bytesOf rest
  | _ => []

/-- The surroundings of a program. -/
def hostOf (v : Json) : Host where
  environment := .ofList ((v.get "env").asFields.map fun (k, s) => (k, s.asText))
  files := .ofList (
    ((v.get "files").asFields.map fun (path, s) => (Host.placeOf path, .bytes s.asText.toUTF8)) ++
    ((v.get "hex_files").asFields.map fun (path, s) =>
      (Host.placeOf path, .bytes ⟨(bytesOf s.asText.toList).toArray⟩)))
  directories := v.listAt (fun d => Host.placeOf d.asText) "dirs"

/-- Changes of settings that a caller makes. -/
def overridesOf (v : Json) : Settings.Patch where
  databaseUrl := (v.get "database_url").text?
  logLevel := (v.get "log_level").text?
  apiKey := (v.get "remote_api_key").text?
  baseUrl := (v.get "remote_base_url").text?
  port := (v.get "server_port").asNat?

/-- What a caller asks of the settings. -/
def settingsRequestOf (v : Json) : Settings.Request where
  path := (v.get "config_path").text?
  fileRequired := v.boolAt "require_file"
  overrides := overridesOf (v.get "overrides")

end Armory.Scenario
