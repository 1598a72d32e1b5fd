import KafkaClient.Buffer
import KafkaClient.BasicTypes
import KafkaClient.RoundTrip
import KafkaClient.Encoder
import KafkaClient.Decoder
import KafkaClient.Codec
import KafkaClient.Frames
import KafkaClient.EventLoop
import KafkaClient.BrokerConnection
import KafkaClient.ConnectionRuns
import KafkaClient.RequestFrames
import KafkaClient.Responses
import KafkaClient.Requests
import KafkaClient.ClusterMetadata
import KafkaClient.NetworkClient
import KafkaClient.SingleFlight
import KafkaClient.Reconciliation
import KafkaClient.SendRequest
import KafkaClient.ApiVersions
import KafkaClient.RequestAccounting
import KafkaClient.ProtocolHeader
import KafkaClient.Partitioner
import KafkaClient.Serdes
import KafkaClient.Consumer
import KafkaClient.ConsumerRuns
import KafkaClient.Producer
import KafkaClient.ProducerRuns
import KafkaClient.VersionRanges
import KafkaClient.PartitionLeader
import KafkaClient.Admin
import KafkaClient.AdminRuns
