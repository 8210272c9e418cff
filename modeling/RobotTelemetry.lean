import RobotTelemetry.Client.Basic
import RobotTelemetry.Json.Reader
import RobotTelemetry.Dump.Program
import RobotTelemetry.Session
import RobotTelemetry.Proofs.FrameTrees
import RobotTelemetry.Proofs.Publication
import RobotTelemetry.Proofs.Reading
import RobotTelemetry.Proofs.Refusals
import RobotTelemetry.Proofs.TransformTrees
import RobotTelemetry.Proofs.Poses
import RobotTelemetry.Proofs.Walks
import RobotTelemetry.Proofs.ParentWalks
import RobotTelemetry.Proofs.EdgeTransforms
import RobotTelemetry.Proofs.BodyRotation
import RobotTelemetry.Proofs.ClockCorrection
import RobotTelemetry.Proofs.Presence
import RobotTelemetry.Proofs.Qualification
import RobotTelemetry.Proofs.RobotNames
import RobotTelemetry.Proofs.EdgeOrder
import RobotTelemetry.Proofs.ClientRuns
import RobotTelemetry.Proofs.CommandLines
import RobotTelemetry.Proofs.Independence
import RobotTelemetry.Proofs.ExitCodes
import RobotTelemetry.Proofs.EntryPoints
import RobotTelemetry.Proofs.OdometryChains
import RobotTelemetry.Proofs.MeasuredParts
import RobotTelemetry.Proofs.AnchorEdge
import RobotTelemetry.Proofs.WholeRotations
import RobotTelemetry.Proofs.Instants
import RobotTelemetry.Proofs.Validation
import RobotTelemetry.Proofs.InverseTargets
import RobotTelemetry.Proofs.GivenVelocities
import RobotTelemetry.Proofs.JointVectors
import RobotTelemetry.Proofs.SourceWarnings
import RobotTelemetry.Proofs.ListFacets
import RobotTelemetry.Proofs.Doubles
import RobotTelemetry.Proofs.Durations
import RobotTelemetry.Proofs.Rounding
import RobotTelemetry.Proofs.JsonStrings
import RobotTelemetry.Proofs.Numerals
import RobotTelemetry.Proofs.ShortestDecimals
import RobotTelemetry.Proofs.NumberTexts
import RobotTelemetry.Proofs.JsonTexts
import RobotTelemetry.Proofs.NearestDoubles
import RobotTelemetry.Proofs.ComponentTexts
import RobotTelemetry.Proofs.StateTexts
import RobotTelemetry.Proofs.LosslessDump
