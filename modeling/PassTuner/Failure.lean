import PassTuner.Catalog
import PassTuner.Knowledge.Stored
import PassTuner.Oracle.Basic
import PassTuner.Search.Config

/-! Why a search or a command ends without a result. -/
namespace PassTuner

inductive Failure where
  | unreadableFile
  | unwritableFile
  | malformed (cause : ReadError)
  | record (cause : RecordError)
  | formula (cause : FormulaError)
  | oracle (cause : OracleError)
  | config (cause : ConfigError)
  | catalog (cause : CatalogError)
  | noDecisionPoints
  | unusableBaseline (cost : Double)
  | noGeneration
  | missingKnowledgeBase (path : String)
  | noCommand
  deriving DecidableEq, Repr

namespace Failure

def ofLoad : LoadError → Failure
  | .malformed cause => .malformed cause
  | .invalid cause => .record cause

def message : Failure → String
  | .unreadableFile => "a file cannot be read"
  | .unwritableFile => "a file cannot be written"
  | .malformed cause => cause.message?.getD "malformed data"
  | .record cause => cause.message
  | .formula cause => cause.message
  | .oracle cause => cause.message
  | .config cause => "invalid search config: " ++ cause.message
  | .catalog cause => "invalid optimization catalog: " ++ cause.message
  | .noDecisionPoints => "the optimization catalog yields no decision points"
  | .unusableBaseline cost =>
    "baseline cost " ++ String.ofList (Double.Layout.plain.text cost) ++ " is not usable"
  | .noGeneration => "no generation has been run"
  | .missingKnowledgeBase path => "knowledge base " ++ path ++ " does not exist"
  | .noCommand => "a compile-and-measure command is required after --"

end Failure

end PassTuner
