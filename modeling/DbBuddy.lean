import DbBuddy.Admin.Escalation
import DbBuddy.Audit.Evidence
import DbBuddy.Audit.SequenceGaps
import DbBuddy.Auth.RequestBudgets
import DbBuddy.Auth.SessionRevocation
import DbBuddy.Auth.SingleFlight
import DbBuddy.Caching.AvailabilityGate
import DbBuddy.Caching.RateLimiter
import DbBuddy.Cli.StandingKey
import DbBuddy.Context.Freshness
import DbBuddy.Context.PoolOwnership
import DbBuddy.Erp.SharedSlots
import DbBuddy.Insights.Citations
import DbBuddy.Insights.Guardrail
import DbBuddy.Jobs.Timers
import DbBuddy.Learning.BoundedMappings
import DbBuddy.Learning.Enhancement
import DbBuddy.Pipeline.CachedResponses
import DbBuddy.Pipeline.Truncation
import DbBuddy.Planner.ColumnClosure
import DbBuddy.Planner.DeclaredKeys
import DbBuddy.Planner.Disclosure
import DbBuddy.Planner.Expansions
import DbBuddy.Planner.GroupConsistency
import DbBuddy.Planner.RepairSoundness
import DbBuddy.Planner.RowLimits
import DbBuddy.Planner.StoredPlans
import DbBuddy.Planner.TokenSegments
import DbBuddy.Planner.TriedPairs
import DbBuddy.Providers.Egress
import DbBuddy.Providers.Labelling
import DbBuddy.Publishing.Confinement
import DbBuddy.Publishing.Deletions
import DbBuddy.Publishing.Positions
import DbBuddy.Publishing.Publication
import DbBuddy.Relations.ComparedPairs
import DbBuddy.Secrets.Rotation
import DbBuddy.Sql.DryRunReading
import DbBuddy.Sql.InlineReading
import DbBuddy.Sql.Scope
import DbBuddy.Sql.WriteSplitting
import DbBuddy.Sql.WriteWarnings
