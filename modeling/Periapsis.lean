import Periapsis.Main
import Periapsis.Proofs.Scenario
import Periapsis.Proofs.TableFile.RoundTrip
import Periapsis.Proofs.Exact
import Periapsis.Proofs.Permuted
import Periapsis.Proofs.Disk
import Periapsis.Proofs.TableFile.Export
import Periapsis.Proofs.TableFile.Columns
import Periapsis.Proofs.CommandLine
import Periapsis.Proofs.CommandLine.Outcome
import Periapsis.Proofs.CommandLine.Stages
import Periapsis.Proofs.CommandLine.Loading
import Periapsis.Proofs.Report
import Periapsis.Proofs.Double.Rounding
import Periapsis.Proofs.Yaml.Plain
import Periapsis.Proofs.Yaml.Block
import Periapsis.Proofs.Yaml.Quoted
import Periapsis.Proofs.Yaml.Scan
import Periapsis.Proofs.Yaml.Written
import Periapsis.Proofs.Yaml.Value
import Periapsis.Proofs.Yaml.Lines
import Periapsis.Proofs.ScenarioFile.Tokens
import Periapsis.Proofs.ScenarioFile.RoundTrip
import Periapsis.Proofs.Double.Arithmetic
import Periapsis.Proofs.Overflow
import Periapsis.Proofs.Scenario.Names
import Periapsis.Proofs.Looks
import Periapsis.Proofs.Attempts
import Periapsis.Proofs.Exact.State
import Periapsis.Proofs.Exact.Orientation
import Periapsis.Proofs.Offence
import Periapsis.Proofs.Balance
