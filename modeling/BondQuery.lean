import BondQuery.Json.Reader
import BondQuery.Main
import BondQuery.Proofs.Complement
import BondQuery.Proofs.AssemblyGrammar
import BondQuery.Proofs.Printing
import BondQuery.Proofs.Emission
import BondQuery.Proofs.FailedOperations
import BondQuery.Proofs.Rating
import BondQuery.Proofs.Filtering
import BondQuery.Proofs.SavedConfiguration
import BondQuery.Proofs.CompileCommand
import BondQuery.Proofs.VacantClauses
import BondQuery.Proofs.Visibility
import BondQuery.Proofs.ScopedTemplates
import BondQuery.Proofs.EmptyLists
import BondQuery.Proofs.Scoring
import BondQuery.Proofs.JsonGrammar
import BondQuery.Proofs.JsonPrinting
import BondQuery.Proofs.CompactOutput
import BondQuery.Proofs.Composition
import BondQuery.Proofs.Keywords
import BondQuery.Proofs.AcceptedExpressions
import BondQuery.Proofs.ClauseFields
import BondQuery.Proofs.AssemblyRuns
import BondQuery.Proofs.Lookups
import BondQuery.Proofs.DiscoveryErrors
import BondQuery.Proofs.ExtremumText
import BondQuery.Proofs.FirstFailure
import BondQuery.Proofs.UsableWeights
import BondQuery.Proofs.ConfigurationDemands
import BondQuery.Proofs.ConfigurationReading
import BondQuery.Proofs.GregorianDays
import BondQuery.Proofs.WrittenMoments
import BondQuery.Proofs.SecondsRounding
import BondQuery.Proofs.DateBounds
import BondQuery.Proofs.ErrorPlaces
